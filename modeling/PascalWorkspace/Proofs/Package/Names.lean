import PascalWorkspace.Proofs.Package.NameIndex
import PascalWorkspace.Proofs.Package.Resolution

/-! Where canonical paths are canonical, every dependency that does not prefer its hint leads to the
first package of its name, if it leads to a package of its name at all. -/
namespace PascalWorkspace

namespace Registry

variable {r s : Registry} {key name found target : String} {ref : DependencyRef} {d : Dependency}
  {source : ManifestSource}

def nameAt? (r : Registry) (key : String) : Option String := (r.find? key).map (·.name)

theorem nameAt?_eq : r.nameAt? key = (r.names.find? fun e => e.2 == key).map (·.1) := by
  rw [names, List.find?_map, Option.map_map]
  rfl

theorem Admits.nameAt? (h : Admits r found s) (hname : r.nameAt? key = some name) :
    s.nameAt? key = some name := by
  obtain ⟨p, hp, rfl⟩ := Option.map_eq_some_iff.1 hname
  rw [Registry.nameAt?, h.find?_of_some hp]
  rfl

/-! ### Dependencies lead to the first package of their name -/

/-- Packages are registered under canonical paths, and under their names. A dependency that does not
prefer its hint leads to the first package of its name, or else to a package of another name. -/
structure Agreed (source : ManifestSource) (r : Registry) : Prop where
  catalogued : r.Catalogued
  canonical : ∀ key, (r.find? key).isSome → ∃ path, source.canonical path = .ok key
  first : ∀ ref d target, r.dependency? ref = some d → d.target = some target →
    ∃ name, r.nameAt? target = some name ∧
      (d.prefer = false → sameName name d.name = true → r.lookup? d.name = some target)

theorem agreed_empty (source : ManifestSource) : Agreed source {} := by
  refine ⟨catalogued_empty, fun _ hkey => (nomatch hkey), fun ref d target hd => ?_⟩
  simp [dependency?, dependenciesOf, find?] at hd

/-- What does not change names, registered packages and targets. -/
theorem Agreed.congr (h : Agreed source r) (hbyName : s.byName = r.byName)
    (hnames : s.names = r.names) (hfind : ∀ key, (s.find? key).isSome = (r.find? key).isSome)
    (hdep : ∀ ref, s.dependency? ref = r.dependency? ref) : Agreed source s := by
  refine ⟨h.catalogued.congr hbyName hnames, fun key hkey => h.canonical key (by rwa [← hfind]),
    fun ref d target hd htarget => ?_⟩
  rw [nameAt?_eq, lookup?, hbyName, hnames, ← nameAt?_eq]
  exact h.first ref d target (by rwa [← hdep]) htarget

end Registry

namespace Workspace

open Operation Registry

variable {source : ManifestSource} {path key : String} {r s : Registry} {ref : DependencyRef}
  {d : Dependency} {target : Package}

theorem Asked.agreed {result : Except Failure Package} (h : Asked source path r result s)
    (hr : Agreed source r) : Agreed source s := by
  cases h with
  | badPath => exact hr
  | refused => exact hr.congr rfl rfl (fun _ => rfl) fun _ => rfl
  | known => exact hr
  | @registered key m hkey hnew hread =>
    have hadmits : Admits r key ((r.request key).add (.ofManifest key m)) := .registered m hnew
    refine ⟨hadmits.catalogued hr.catalogued, fun other hother => ?_,
      fun ref d target hd htarget => ?_⟩
    · obtain hold | rfl := hadmits.isSome_find?_iff.1 hother
      · exact hr.canonical other hold
      · exact ⟨path, hkey⟩
    · obtain ⟨name, hname, hfirst⟩ :=
        hr.first ref d target (hadmits.dependency?_of_target hd htarget) htarget
      exact ⟨name, hadmits.nameAt? hname,
        fun hprefer hsame => hadmits.lookup? (hfirst hprefer hsame)⟩

/-- What is agreed stays so. -/
def Agrees (source : ManifestSource) (r s : Registry) : Prop := Agreed source r → Agreed source s

instance : IsPreorder Registry (Agrees source) where
  refl _ h := h
  trans _ _ _ hrs hst h := hst (hrs h)

theorem agrees_register (path : String) :
    Keeps (OnRegistry (Agrees source)) (register source path) :=
  fun w => (asked_register source path w).agreed

theorem agrees_tryRegister (path : String) :
    Keeps (OnRegistry (Agrees source)) (tryRegister source path) := by
  intro w
  obtain ⟨_, hasked, -⟩ := asked_tryRegister source path w
  exact hasked.agreed

section Agreed

-- Canonical spellings are canonical, and none is empty.
variable (hsource : ∀ path key, source.canonical path = .ok key → source.canonical key = .ok key ∧
  key ≠ "")
include hsource

/-- A dependency that does not prefer its hint is found as the first package of its name: by looking
it up there if there is one before, else by registering it. -/
theorem lookup?_of_asked (hr : Agreed source r) (hprefer : d.prefer = false)
    (h : Asked source (r.choosePath d) r (.ok target) s)
    (hname : sameName target.name d.name = true) : s.lookup? d.name = some target.manifest := by
  obtain ⟨hkey, hadmits, hfind⟩ := h.admits
  cases hlookup : r.lookup? d.name with
  | some found =>
    obtain ⟨path, hpath⟩ := hr.canonical found (hr.catalogued.isSome_find?_of_lookup? hlookup)
    obtain ⟨hfound, hne⟩ := hsource path found hpath
    have hchosen : r.choosePath d = found := by
      simp [choosePath, namedPath, hlookup, hprefer, hne]
    rw [hchosen, hfound] at hkey
    rw [← Except.ok.inj hkey]
    exact hadmits.lookup? hlookup
  | none =>
    cases h with
    | known _ hp =>
      have hsome := hr.catalogued.isSome_lookup?_of_find? hp hname
      simp [hlookup] at hsome
    | @registered key m _ hnew =>
      have hlater : ((r.request key).add (.ofManifest key m)).lookup? d.name =
          (r.lookup? d.name).or
            (if Text.lowercase d.name = Text.lowercase m.name then some key else none) :=
        NameIndex.lookup_enter
      have hsame : Text.lowercase m.name = Text.lowercase d.name := sameName_iff.1 hname
      rw [hlater, hlookup, if_pos hsame.symm]
      rfl

theorem agreed_link (hr : Agreed source r) (hd : r.dependency? ref = some d)
    (h : Asked source (r.choosePath d) r (.ok target) s) :
    Agreed source (s.link ref target.manifest) := by
  have hs := h.agreed hr
  obtain ⟨-, hadmits, hfind⟩ := h.admits
  refine ⟨hs.catalogued.congr rfl names_link,
    fun key hkey => hs.canonical key (by rwa [isSome_find?_link] at hkey), ?_⟩
  intro place e other he hother
  rw [nameAt?_eq, names_link, ← nameAt?_eq]
  rw [link_eq, dependency?_addDependent, dependency?_setTarget] at he
  split at he
  · next hplace =>
    subst hplace
    rw [hadmits.dependency? hd] at he
    obtain rfl : d.withTarget target.manifest = e := by simpa using he
    obtain rfl : target.manifest = other := by simpa [Dependency.withTarget] using hother
    refine ⟨target.name, by rw [nameAt?, hfind]; rfl, fun hprefer hname => ?_⟩
    have hfound : s.lookup? d.name = some target.manifest :=
      lookup?_of_asked hsource hr hprefer h hname
    exact hfound
  · exact hs.first place e other he hother

theorem agrees_linkDependency (ref : DependencyRef) :
    Keeps (OnRegistry (Agrees source)) (linkDependency source ref) := by
  intro w hw
  have hlooked := looked_linkDependency source ref w
  generalize (outcome (linkDependency source ref) w).1 = result at hlooked
  generalize (after (linkDependency source ref) w).registry = s at hlooked ⊢
  cases hlooked with
  | found hd hasked => exact agreed_link hsource hw hd hasked
  | absent => exact hw
  | refused => exact hw.congr rfl rfl (fun _ => rfl) fun _ => rfl
  | failed _ h =>
    obtain rfl | ⟨key, rfl⟩ := h
    · exact hw
    · exact hw.congr rfl rfl (fun _ => rfl) fun _ => rfl

theorem agrees_resolve (key : String) :
    Keeps (OnRegistry (Agrees source)) (resolve source key) := by
  refine keeps_resolve_of_link (agrees_linkDependency hsource) (fun key w hw => ?_) key
  exact Agreed.congr hw rfl names_markResolved (fun _ => isSome_find?_markResolved) fun _ =>
    dependency?_markResolved

end Agreed

end Workspace

end PascalWorkspace
