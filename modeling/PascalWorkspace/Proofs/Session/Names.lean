import PascalWorkspace.Proofs.Host.Canonical
import PascalWorkspace.Proofs.Host.Keys
import PascalWorkspace.Proofs.Package.Names
import PascalWorkspace.Proofs.Session.Targets

/-! One package for each name: as long as packages are only loaded and resolved, dependencies of one
name lead to one package, unless they prefer their hints or lead to a package of another name. -/
namespace PascalWorkspace

namespace Session

open Operation Registry FileTree

variable {s : Session} {calls : List Call} {source : ManifestSource}

/-- A call that registers or resolves packages of a source and does nothing else. -/
def Call.Loads (source : ManifestSource) : Call → Prop
  | .register source' _ | .resolve source' _ | .resolveBelow _ source' _ _ => source' = source
  | _ => False

section Agreed

-- Canonical spellings are canonical, and none is empty.
variable (hsource : ∀ path key, source.canonical path = .ok key → source.canonical key = .ok key ∧
  key ≠ "")
include hsource

theorem agreed_perform {c : Call} (hc : c.Loads source)
    (hs : Agreed source s.workspace.registry) :
    Agreed source (s.perform c).workspace.registry := by
  have onRegistry {α : Type} {act : Action α}
      (h : Keeps (Workspace.OnRegistry (Workspace.Agrees source)) act) :
      Agreed source (after (onWorkspace act) s).workspace.registry := keeps_onWorkspace h s hs
  cases c with
  | register source' path =>
    obtain rfl : source' = source := hc
    exact onRegistry (Workspace.agrees_register path)
  | resolve source' key =>
    obtain rfl : source' = source := hc
    exact onRegistry (Workspace.agrees_resolve hsource key)
  | resolveBelow h source' ignored directory =>
    obtain rfl : source' = source := hc
    have hbelow : Keeps (Workspace.OnRegistry (Workspace.Agrees source'))
        (Workspace.resolveBelow h source' ignored directory) := by
      refine keeps_bind ?_ fun _ => keeps_pure _
      exact Workspace.keeps_forPackages (fun p => Workspace.agrees_resolve hsource p.manifest)
        fun _ _ m _ => Workspace.agrees_tryRegister m.toString
    rw [perform]
    exact onRegistry hbelow
  | _ => cases hc

theorem agreed_performAll (hcalls : ∀ c ∈ calls, c.Loads source)
    (hs : Agreed source s.workspace.registry) :
    Agreed source (s.performAll calls).workspace.registry := by
  induction calls generalizing s with
  | nil => exact hs
  | cons c calls ih =>
    obtain ⟨hc, hrest⟩ := List.forall_mem_cons.1 hcalls
    exact ih hrest (agreed_perform hsource hc hs)

end Agreed

/-- Two dependencies of one name, in letters of either case, lead to the same package if neither
prefers its hint and both lead to packages of that name. It is the first package of the name, and
stays that. -/
theorem target_eq_lookup? (h : Host) (hh : h.Regular) (hloop : h.tree.LoopFree)
    (source : ManifestSource) (hsource : source.canonical = h.canonical) (s : Session)
    (hs : s.workspace.registry = {}) (calls : List Call) (hcalls : ∀ c ∈ calls, c.Loads source) :
    let packages := (s.performAll calls).workspace.registry.packages
    ∀ p ∈ packages, ∀ q ∈ packages, ∀ d ∈ p.dependencies, ∀ e ∈ q.dependencies,
      d.prefer = false → e.prefer = false → sameName d.name e.name = true →
      ∀ t ∈ packages, ∀ u ∈ packages, d.target = some t.manifest → e.target = some u.manifest →
        sameName t.name d.name = true → sameName u.name e.name = true →
        t = u ∧ ∀ later, (s.performAll (calls ++ later)).workspace.registry.lookup? d.name =
          some t.manifest := by
  intro packages p hp q hq d hd e he hprefer hprefer' hname t ht u hu htarget htarget' hname'
    hname''
  have hcanonical : ∀ path key, source.canonical path = .ok key →
      source.canonical key = .ok key ∧ key ≠ "" := by
    rw [hsource]
    refine fun path key hkey => ⟨Host.canonical_canonical hh hloop hkey, ?_⟩
    rintro rfl
    exact Host.canonical_ne_empty hh hkey
  have hagreed := agreed_performAll hcanonical hcalls (hs ▸ agreed_empty source)
  have hdistinct := (sound_performAll hs calls).distinct
  -- A dependency of a registered package leads to the first package of its name.
  have hfirst {p : Package} (hp : p ∈ packages) {d : Dependency} (hd : d ∈ p.dependencies)
      {t : Package} (ht : t ∈ packages) (hprefer : d.prefer = false)
      (htarget : d.target = some t.manifest) (hname : sameName t.name d.name = true) :
      (s.performAll calls).workspace.registry.lookup? d.name = some t.manifest := by
    obtain ⟨index, hdependency⟩ := exists_dependency?_of_mem (find?_of_mem hdistinct hp) hd
    obtain ⟨name, hat, hlookup⟩ := hagreed.first _ d _ hdependency htarget
    rw [nameAt?, find?_of_mem hdistinct ht] at hat
    obtain rfl : t.name = name := Option.some.inj hat
    exact hlookup hprefer hname
  have hd' := hfirst hp hd ht hprefer htarget hname'
  have he' := hfirst hq he hu hprefer' htarget' hname''
  refine ⟨?_, fun later => ?_⟩
  · have hmanifest : t.manifest = u.manifest := by
      rw [lookup?_congr hname, he'] at hd'
      exact (Option.some.inj hd').symm
    have hfind := find?_of_mem hdistinct ht
    rw [hmanifest, find?_of_mem hdistinct hu] at hfind
    exact (Option.some.inj hfind).symm
  · have hevolves := evolves_performAll (s.performAll calls) later (sound_performAll hs calls)
    rw [performAll, List.foldl_append]
    exact lookup?_steps hevolves hd'

/-- A machine with a link to a directory. -/
def linkedHost : Host where
  tree := ⟨[(["w"], .directory), (["v"], .link "w")]⟩
  cwd := ["w"]
  environment := []
  homes := []

/-- The second manifest is found by its path from the first, through the link, and by its name from
the third. -/
def linkedSource : ManifestSource :=
  .ofTable linkedHost [
    ("/w/a.lpk", ⟨"A", "/w", {}, [⟨"B", "/v/b.lpk", false⟩, ⟨"C", "/w/c.lpk", false⟩]⟩),
    ("/w/b.lpk", ⟨"B", "/w", {}, []⟩),
    ("/w/c.lpk", ⟨"C", "/w", {}, [⟨"b", "", false⟩]⟩)]

def linkedCalls : List Call := [.register linkedSource "/v/a.lpk", .resolve linkedSource "/w/a.lpk"]

def linkedPackages : List Package := [
  { manifest := "/w/a.lpk", name := "A", directory := "/w", paths := {}, isResolved := true,
    dependencies := [⟨⟨"B", "/v/b.lpk", false⟩, some "/w/b.lpk"⟩,
      ⟨⟨"C", "/w/c.lpk", false⟩, some "/w/c.lpk"⟩] },
  { manifest := "/w/b.lpk", name := "B", directory := "/w", paths := {}, isResolved := true,
    dependencies := [], requiredBy := ["/w/a.lpk", "/w/c.lpk"] },
  { manifest := "/w/c.lpk", name := "C", directory := "/w", paths := {}, isResolved := true,
    dependencies := [⟨⟨"b", "", false⟩, some "/w/b.lpk"⟩], requiredBy := ["/w/a.lpk"] }]

theorem packages_linked :
    (({} : Session).performAll linkedCalls).workspace.registry.packages = linkedPackages := by cbv

theorem entryAt_linked {link : Location} {target : String}
    (h : linkedHost.tree.entryAt link = some (.link target)) : link = ["v"] ∧ target = "w" := by
  have hmem := mem_entries (ne_root_of_link h) h
  simpa [linkedHost] using hmem

theorem clean_linked : Clean linkedHost.tree ["w"] := by
  have hname : IsFileName "w" := by decide
  have hentry (target : String) :
      linkedHost.tree.entryAt ([] ++ ["w"]) ≠ some (.link target) := by
    intro hlink
    simpa using (entryAt_linked hlink).1
  exact .child .root hname hentry

theorem regular_linked : linkedHost.Regular := by
  refine ⟨clean_linked, fun link target hlink => ?_⟩
  obtain ⟨-, rfl⟩ := entryAt_linked hlink
  decide

/-- The link leads to the directory. -/
theorem loopFree_linked : linkedHost.tree.LoopFree := by
  intro link target hlink
  obtain ⟨rfl, rfl⟩ := entryAt_linked hlink
  have hpieces : Path.pieces "w" = ["w"] := by cbv
  have horigin : origin ["v"].dropLast "w" = [] := by cbv
  refine ⟨0, ["w"], "w", hlink, ?_⟩
  rw [hpieces, horigin]
  exact clean_linked.leads

/-- The second package is the target of the first and of the third, and the first of its name for
good. -/
theorem target_eq_lookup?_linked :
    linkedHost.Regular ∧ linkedHost.tree.LoopFree ∧
      linkedSource.canonical = linkedHost.canonical ∧ ({} : Session).workspace.registry = {} ∧
      (∀ c ∈ linkedCalls, c.Loads linkedSource) ∧
      ∀ later, (({} : Session).performAll (linkedCalls ++ later)).workspace.registry.lookup? "B" =
        some "/w/b.lpk" := by
  have hcalls : ∀ c ∈ linkedCalls, c.Loads linkedSource := by
    simp [linkedCalls, Call.Loads]
  have hlookup := target_eq_lookup? linkedHost regular_linked loopFree_linked linkedSource rfl {}
    rfl linkedCalls hcalls
  rw [packages_linked] at hlookup
  have hfirst : linkedPackages[0] ∈ linkedPackages := List.getElem_mem _
  have hsecond : linkedPackages[1] ∈ linkedPackages := List.getElem_mem _
  have hthird : linkedPackages[2] ∈ linkedPackages := List.getElem_mem _
  have hname : sameName "B" "b" = true := by cbv
  have hsame : sameName "B" "B" = true := by cbv
  obtain ⟨-, hlater⟩ := hlookup _ hfirst _ hthird _ List.mem_cons_self _ List.mem_cons_self rfl rfl
    hname _ hsecond _ hsecond rfl rfl hsame hname
  exact ⟨regular_linked, loopFree_linked, rfl, rfl, hcalls, hlater⟩

end Session

end PascalWorkspace
