import PascalWorkspace.Proofs.FileTree.Clean

/-! File trees in which every place is listed once and every name is one that a file can have. -/
namespace PascalWorkspace

/-- What is true of every file tree: no place is listed twice, and names are names of files. -/
structure FileTree.WellFormed (t : FileTree) : Prop where
  distinct : (t.entries.map (·.1)).Nodup
  names : ∀ e ∈ t.entries, ∀ name ∈ e.1, IsFileName name

namespace FileTree

variable {t : FileTree} {loc : Location} {name : String}

instance (t : FileTree) : Decidable t.WellFormed :=
  decidable_of_iff
    ((t.entries.map (·.1)).Nodup ∧ ∀ e ∈ t.entries, ∀ name ∈ e.1, IsFileName name)
    ⟨fun h => ⟨h.1, h.2⟩, fun h => ⟨h.distinct, h.names⟩⟩

theorem eq_append_of_child {place : Location}
    (h : (if place.dropLast = loc then place.getLast? else none) = some name) :
    place = loc ++ [name] := by
  split at h
  · next hloc =>
    obtain ⟨init, hinit⟩ := List.getLast?_eq_some_iff.1 h
    rw [← hloc, hinit, List.dropLast_concat]
  · cases h

theorem mem_of_mem_childNames (h : name ∈ t.childNames loc) :
    ∃ e ∈ t.entries, e.1 = loc ++ [name] := by
  obtain ⟨e, he, hname⟩ := List.mem_filterMap.1 h
  exact ⟨e, he, eq_append_of_child hname⟩

theorem WellFormed.nodup_childNames (h : t.WellFormed) (loc : Location) :
    (t.childNames loc).Nodup := by
  have hnames : t.childNames loc = (t.entries.map (·.1)).filterMap fun place =>
      if place.dropLast = loc then place.getLast? else none := by
    rw [List.filterMap_map]
    rfl
  rw [hnames]
  refine h.distinct.filterMap fun a b name ha hb => ?_
  rw [eq_append_of_child ha, eq_append_of_child hb]

theorem WellFormed.isFileName (h : t.WellFormed) (hname : name ∈ t.childNames loc) :
    IsFileName name := by
  obtain ⟨e, he, heq⟩ := mem_of_mem_childNames hname
  exact h.names e he name (heq ▸ List.mem_append_right _ (List.mem_singleton_self name))

end FileTree

end PascalWorkspace
