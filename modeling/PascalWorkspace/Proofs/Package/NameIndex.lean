import PascalWorkspace.Proofs.Package.Step

/-! The index of names is kept beside the packages while they are registered. A name that is in it
already is left alone, and no other change touches it, so that it never drifts apart from the
packages: a name leads to the first package that was registered under it. -/
namespace PascalWorkspace

namespace NameIndex

variable {index : NameIndex} {name other key : String} {packages : List Package}

theorem lookup_enter : (index.enter name key).lookup other =
    (index.lookup other).or (if other = name then some key else none) := by
  unfold enter
  split
  · next htaken =>
    by_cases hother : other = name
    · subst hother
      obtain ⟨found, hfound⟩ := Option.isSome_iff_exists.1 htaken
      simp [hfound]
    · simp [hother]
  · rw [List.lookup_append]
    congr 1
    rw [List.lookup_cons]
    by_cases hother : other = name
    · simp [hother]
    · simp [hother, beq_false_of_ne hother]

/-- A name that leads somewhere goes on to lead there. -/
theorem lookup_enter_of_some {found : String} (h : index.lookup other = some found) :
    (index.enter name key).lookup other = some found := by
  rw [lookup_enter, h]
  rfl

/-- Of the packages entered in turn the first of a name is found. -/
theorem lookup_foldl_enterPackage :
    (packages.foldl enterPackage index).lookup (Text.lowercase name) =
      (index.lookup (Text.lowercase name)).or
        ((packages.find? fun p => sameName p.name name).map (·.manifest)) := by
  induction packages generalizing index with
  | nil => simp
  | cons p rest ih =>
    rw [List.foldl_cons, ih, enterPackage, lookup_enter, Option.or_assoc, List.find?_cons]
    congr 1
    by_cases hname : Text.lowercase name = Text.lowercase p.name
    · simp [hname, sameName]
    · simp [hname, sameName, beq_false_of_ne (Ne.symm hname)]

end NameIndex

namespace Registry

variable {r s : Registry} {key name found target : String} {ref : DependencyRef} {p : Package}
  {scope : Scope}

/-! ### Names -/

/-- The names of the packages with their manifests, in the order of registration. -/
def names (r : Registry) : List (String × String) := r.packages.map fun p => (p.name, p.manifest)

theorem names_update {f : Package → Package} (hname : ∀ p, (f p).name = p.name)
    (hmanifest : ∀ p, (f p).manifest = p.manifest) : (r.update key f).names = r.names := by
  rw [names, update, List.map_map, names]
  congr 1
  funext p
  by_cases hp : p.manifest = key <;> simp [hp, hname, hmanifest]

theorem names_setTarget : (r.setTarget ref target).names = r.names :=
  names_update (fun _ => rfl) fun _ => rfl

theorem names_markResolved : (r.markResolved key).names = r.names :=
  names_update (fun _ => rfl) fun _ => rfl

theorem names_link : (r.link ref target).names = r.names := by
  have hadd : ((r.setTarget ref target).addDependent target ref.manifest).names =
      (r.setTarget ref target).names := names_update (fun _ => rfl) fun _ => rfl
  rw [link_eq, hadd, names_setTarget]

theorem SameGraph.names (h : SameGraph r s) : s.names = r.names := by
  have hbare (t : Registry) :
      t.names = (t.packages.map Package.bare).map fun p => (p.name, p.manifest) := by
    rw [List.map_map]
    rfl
  rw [hbare s, h, hbare r]

/-! ### The index that the packages give -/

/-- The index of names as it is after all packages have been entered in the order of registration.
-/
def nameIndex (r : Registry) : NameIndex := r.packages.foldl NameIndex.enterPackage []

/-- The index is kept by entering each package that is registered. -/
theorem nameIndex_add (r : Registry) (p : Package) :
    (r.add p).nameIndex = r.nameIndex.enterPackage p := by
  rw [nameIndex, add, List.foldl_append]
  rfl

/-- No other change of the packages matters to the index. -/
theorem nameIndex_of_names (h : s.names = r.names) : s.nameIndex = r.nameIndex := by
  have hfold (t : Registry) : t.nameIndex =
      t.names.foldl (fun index e => NameIndex.enter index (Text.lowercase e.1) e.2) [] := by
    rw [names, List.foldl_map]
    rfl
  rw [hfold, h, hfold]

theorem lookup_nameIndex : r.nameIndex.lookup (Text.lowercase name) =
    (r.packages.find? fun p => sameName p.name name).map (·.manifest) := by
  rw [nameIndex, NameIndex.lookup_foldl_enterPackage]
  rfl

/-! ### The index that is kept -/

/-- The index of names and the packages have not drifted apart. -/
def Catalogued (r : Registry) : Prop := r.byName = r.nameIndex

theorem catalogued_empty : Catalogued {} := rfl

theorem Catalogued.add (h : r.Catalogued) (p : Package) : (r.add p).Catalogued := by
  rw [Catalogued, nameIndex_add, ← h]
  rfl

theorem Catalogued.congr (h : r.Catalogued) (hbyName : s.byName = r.byName)
    (hnames : s.names = r.names) : s.Catalogued := by
  rw [Catalogued, hbyName, nameIndex_of_names hnames]
  exact h

theorem Admits.catalogued (h : Admits r key s) (hr : r.Catalogued) : s.Catalogued := by
  cases h with
  | known => exact hr
  | registered m hnew => exact Catalogued.add (hr.congr rfl rfl) _

theorem catalogued_step (h : Step scope r s) (hr : r.Catalogued) : s.Catalogued := by
  cases h with
  | request => exact hr.congr rfl rfl
  | register _ h => exact h.catalogued hr
  | mark => exact hr.congr rfl names_markResolved
  | connect h =>
    exact (h.catalogued hr).congr rfl (names_markResolved.trans names_link)
  | borrow => exact hr.congr rfl names_setTarget
  | finish _ h hbyName => exact hr.congr hbyName h.names

theorem catalogued_steps (h : Steps scope r s) (hr : r.Catalogued) : s.Catalogued := by
  induction h with
  | refl => exact hr
  | tail _ h ih => exact catalogued_step h ih

theorem Catalogued.lookup?_eq (h : r.Catalogued) (name : String) :
    r.lookup? name = (r.packages.find? fun p => sameName p.name name).map (·.manifest) := by
  rw [lookup?, h, lookup_nameIndex]

/-- A name leads to a registered package. -/
theorem Catalogued.exists_of_lookup? (h : r.Catalogued) (hfound : r.lookup? name = some found) :
    ∃ p ∈ r.packages, p.manifest = found := by
  rw [h.lookup?_eq] at hfound
  obtain ⟨p, hp, hmanifest⟩ := Option.map_eq_some_iff.1 hfound
  exact ⟨p, List.mem_of_find?_eq_some hp, hmanifest⟩

theorem Catalogued.isSome_find?_of_lookup? (h : r.Catalogued)
    (hfound : r.lookup? name = some found) : (r.find? found).isSome := by
  obtain ⟨p, hp, rfl⟩ := h.exists_of_lookup? hfound
  by_contra hnone
  exact find?_eq_none.1 (Option.not_isSome_iff_eq_none.1 hnone) p hp rfl

theorem Catalogued.isSome_lookup?_of_find? (h : r.Catalogued) (hp : r.find? key = some p)
    (hname : sameName p.name name = true) : (r.lookup? name).isSome := by
  rw [h.lookup?_eq, Option.isSome_map, List.find?_isSome]
  exact ⟨p, find?_mem hp, hname⟩

/-! ### Names lead somewhere for good -/

/-- Letters of either case are the same when a name is looked up. -/
theorem lookup?_congr {other : String} (h : sameName name other = true) :
    r.lookup? name = r.lookup? other := by
  rw [lookup?, sameName_iff.1 h, lookup?]

theorem Admits.lookup? (h : Admits r key s) (hfound : r.lookup? name = some found) :
    s.lookup? name = some found := by
  cases h with
  | known => exact hfound
  | registered m hnew => exact NameIndex.lookup_enter_of_some hfound

theorem lookup?_step (h : Step scope r s) (hfound : r.lookup? name = some found) :
    s.lookup? name = some found := by
  cases h with
  | request | mark | borrow => exact hfound
  | register _ h | connect h => exact h.lookup? hfound
  | finish _ _ hbyName => rwa [Registry.lookup?, hbyName]

/-- The first package of a name stays the first. -/
theorem lookup?_steps (h : Steps scope r s) (hfound : r.lookup? name = some found) :
    s.lookup? name = some found := by
  induction h with
  | refl => exact hfound
  | tail _ h ih => exact lookup?_step h ih

/-- The packages of a registry can be found by their manifests and by their names, the first package
of a name for all of that name. -/
structure Indexed (r : Registry) : Prop where
  distinct : (r.packages.map (·.manifest)).Nodup
  find?_iff : ∀ key p, r.find? key = some p ↔ p ∈ r.packages ∧ p.manifest = key
  index : r.byName = r.nameIndex
  known : ∀ name, (r.lookup? name).isSome ↔
    ∃ p ∈ r.packages, Text.lowercase p.name = Text.lowercase name
  first : ∀ name found, r.lookup? name = some found → ∃ early p late,
    r.packages = early ++ p :: late ∧ p.manifest = found ∧
      Text.lowercase p.name = Text.lowercase name ∧
      ∀ q ∈ early, Text.lowercase q.name ≠ Text.lowercase name

theorem Catalogued.indexed (h : r.Catalogued) (hr : r.Distinct) : r.Indexed where
  distinct := hr
  find?_iff key p := by
    refine ⟨fun hp => ⟨find?_mem hp, find?_manifest hp⟩, ?_⟩
    rintro ⟨hp, rfl⟩
    exact find?_of_mem hr hp
  index := h
  known name := by simp [h.lookup?_eq, sameName]
  first name found hfound := by
    rw [h.lookup?_eq] at hfound
    obtain ⟨p, hp, rfl⟩ := Option.map_eq_some_iff.1 hfound
    obtain ⟨hname, early, late, hsplit, hearly⟩ := List.find?_eq_some_iff_append.1 hp
    refine ⟨early, p, late, hsplit, rfl, sameName_iff.1 hname, fun q hq hsame => ?_⟩
    simpa [sameName, hsame] using hearly q hq

end Registry

end PascalWorkspace
