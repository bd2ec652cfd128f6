import Mathlib.Data.List.Perm.Basic
import PascalWorkspace.Proofs.FileTree.Follows
import PascalWorkspace.Proofs.FileTree.Spelling
import PascalWorkspace.Proofs.FileTree.WellFormed

/-! What the answers about a tree depend on: where a path leads on the entries alone, its canonical
spelling on the links among them. The order in which directories are enumerated has no part in it.
-/
namespace PascalWorkspace

namespace FileTree

variable {t u : FileTree} {loc : Location}

theorem entryAt_of_ne_root (hloc : loc ≠ []) :
    t.entryAt loc = (t.entries.find? (·.1 == loc)).map (·.2) := by
  cases loc with
  | nil => exact absurd rfl hloc
  | cons => rfl

theorem refusalAt_congr (h : t.entryAt loc = u.entryAt loc) :
    t.refusalAt loc = u.refusalAt loc := by rw [refusalAt, refusalAt, h]

/-- Two trees with the same entries lead a path the same way. -/
theorem follow_congr (h : ∀ loc, t.entryAt loc = u.entryAt loc) (links : Nat) (loc : Location)
    (steps : List String) : t.follow links loc steps = u.follow links loc steps := by
  have hrefusal (loc : Location) : t.refusalAt loc = u.refusalAt loc := refusalAt_congr (h loc)
  fun_induction follow t links loc steps <;> rw [follow] <;> simp_all

/-- Two trees with the same links. -/
def SameLinks (t u : FileTree) : Prop :=
  ∀ loc target, t.entryAt loc = some (.link target) ↔ u.entryAt loc = some (.link target)

theorem trace_congr (h : t.SameLinks u) (fuel : Nat) (seen : Visited) (place : Place)
    (tasks : List Task) : t.trace fuel seen place tasks = u.trace fuel seen place tasks := by
  fun_induction trace t fuel seen place tasks with
  | case1 => rw [trace]
  | case2 fuel seen place link tasks ih => rw [trace, ih]
  | case3 fuel seen place name tasks hstay ih => rw [trace, if_pos hstay, ih]
  | case4 fuel seen place tasks hstay ih => rw [trace_up, ih]
  | case5 fuel seen place name tasks hstay hup next target hlink reached hmet ih =>
    rw [trace_met (goesDown_of_not_stay hstay hup) ((h _ _).1 hlink) hmet, ih]
  | case6 fuel seen place name tasks hstay hup next target hlink hbusy =>
    rw [trace_busy (goesDown_of_not_stay hstay hup) ((h _ _).1 hlink) hbusy]
  | case7 seen place name tasks hstay hup next target hlink hnew =>
    rw [trace_spent (goesDown_of_not_stay hstay hup) ((h _ _).1 hlink) hnew]
  | case8 seen place name tasks hstay hup next target hlink hnew fuel origin ih =>
    rw [trace_new (goesDown_of_not_stay hstay hup) ((h _ _).1 hlink) hnew, ih]
    rfl
  | case9 fuel seen place name tasks hstay hup next hother ih =>
    rw [trace_down (goesDown_of_not_stay hstay hup), ih]
    exact fun target hlink => hother target ((h _ _).2 hlink)

theorem SameLinks.canonicalPath (h : t.SameLinks u) (hcount : t.linkCount = u.linkCount)
    (cwd : Location) (p : Path) : t.canonicalPath cwd p = u.canonicalPath cwd p := by
  rw [FileTree.canonicalPath, FileTree.canonicalPath, hcount, trace_congr h]

theorem sameLinks_of_entryAt (h : ∀ loc, t.entryAt loc = u.entryAt loc) : t.SameLinks u :=
  fun loc target => by rw [h]

/-! ### Other orders of enumeration -/

theorem WellFormed.perm (ht : t.WellFormed) (h : t.entries.Perm u.entries) : u.WellFormed :=
  ⟨(h.map _).nodup_iff.1 ht.distinct, fun e he => ht.names e (h.mem_iff.2 he)⟩

theorem WellFormed.entryAt_eq_some_iff (ht : t.WellFormed) (hloc : loc ≠ []) {entry : Entry} :
    t.entryAt loc = some entry ↔ (loc, entry) ∈ t.entries := by
  refine ⟨mem_entries hloc, fun hmem => ?_⟩
  obtain ⟨found, hfound⟩ : ∃ found, t.entries.find? (·.1 == loc) = some found :=
    Option.isSome_iff_exists.1 (List.find?_isSome.2 ⟨_, hmem, beq_self_eq_true loc⟩)
  have hplace : found.1 = loc := by simpa using List.find?_some hfound
  obtain rfl : found = (loc, entry) :=
    List.inj_on_of_nodup_map ht.distinct (List.mem_of_find?_eq_some hfound) hmem hplace
  rw [entryAt_of_ne_root hloc, hfound]
  rfl

/-- What lies at a place does not depend on the order in which the entries are listed. -/
theorem WellFormed.entryAt_perm (ht : t.WellFormed) (h : t.entries.Perm u.entries)
    (loc : Location) : t.entryAt loc = u.entryAt loc := by
  by_cases hloc : loc = []
  · rw [hloc, entryAt, entryAt]
  · refine Option.ext fun entry => ?_
    rw [ht.entryAt_eq_some_iff hloc, (ht.perm h).entryAt_eq_some_iff hloc, h.mem_iff]

theorem childNames_perm (h : t.entries.Perm u.entries) (loc : Location) :
    (t.childNames loc).Perm (u.childNames loc) := h.filterMap _

theorem linkCount_perm (h : t.entries.Perm u.entries) : t.linkCount = u.linkCount := h.countP_eq _

theorem depth_perm (h : t.entries.Perm u.entries) : t.depth = u.depth := by
  refine h.foldl_eq' (fun x _ y _ n => ?_) 0
  omega

theorem pathBound_perm (h : t.entries.Perm u.entries) : t.pathBound = u.pathBound := by
  rw [pathBound, pathBound, h.length_eq, depth_perm h]

end FileTree

end PascalWorkspace
