import PascalWorkspace.Proofs.FileTree.Leads

/-! Places that are reached without links. A path to such a place is canonical already, and names
that lead anywhere from such a place lead to another. -/
namespace PascalWorkspace

namespace FileTree

variable {t : FileTree} {n links : Nat} {loc out pre : Location} {name : String}
  {steps : List String}

/-- A name that a file can have. -/
structure IsFileName (name : String) : Prop extends Path.IsPart name, GoesDown name where
  noNul : '\x00' ∉ name.toList

theorem isFileName_iff : IsFileName name ↔
    Path.isPlainPart name = true ∧ name ≠ ".." ∧ '/' ∉ name.toList ∧ '\x00' ∉ name.toList := by
  refine ⟨fun h => ⟨h.plain, h.notUp, h.noSlash, h.noNul⟩, fun ⟨hplain, hup, hslash, hnul⟩ => ?_⟩
  have hparts : name ≠ "" ∧ name ≠ "." := by simpa [Path.isPlainPart] using hplain
  exact
    { plain := hplain, noSlash := hslash, nonempty := hparts.1, notDot := hparts.2, notUp := hup,
      noNul := hnul }

instance : DecidablePred IsFileName := fun _ => decidable_of_iff _ isFileName_iff.symm

/-- A name on the way of a path: as a file can have it, or one that stays or goes up. -/
structure IsStepName (name : String) : Prop where
  noSlash : '/' ∉ name.toList
  noNul : '\x00' ∉ name.toList

/-- A place that is reached by names of files and without links. Nothing need be there. -/
inductive Clean (t : FileTree) : Location → Prop where
  | root : Clean t []
  | child {loc : Location} {name : String} (h : Clean t loc) (hname : IsFileName name)
      (hentry : ∀ target, t.entryAt (loc ++ [name]) ≠ some (.link target)) : Clean t (loc ++ [name])

theorem IsStepName.isFileName (h : IsStepName name) (hdown : GoesDown name) : IsFileName name where
  plain := by simp [Path.isPlainPart, hdown.nonempty, hdown.notDot]
  noSlash := h.noSlash
  toGoesDown := hdown
  noNul := h.noNul

theorem Clean.of_child (h : Clean t (loc ++ [name])) :
    Clean t loc ∧ IsFileName name ∧ ∀ target, t.entryAt (loc ++ [name]) ≠ some (.link target) := by
  generalize hplace : loc ++ [name] = place at h
  cases h with
  | root => simp at hplace
  | child h hname hentry =>
    obtain ⟨rfl, rfl⟩ := List.append_inj' hplace rfl |>.imp id List.singleton_inj.1
    exact ⟨h, hname, hentry⟩

theorem Clean.dropLast (h : Clean t loc) : Clean t loc.dropLast := by
  cases h with
  | root => exact .root
  | child h => rwa [List.dropLast_concat]

theorem Clean.of_append (h : Clean t (pre ++ loc)) : Clean t pre := by
  induction loc using List.reverseRecOn with
  | nil => rwa [List.append_nil] at h
  | append_singleton loc name ih =>
    rw [← List.append_assoc] at h
    exact ih h.of_child.1

theorem Clean.isFileName (h : Clean t loc) (hname : name ∈ loc) : IsFileName name := by
  induction h with
  | root => cases hname
  | child h hlast hentry ih =>
    obtain hname | hname := List.mem_append.1 hname
    · exact ih hname
    · obtain rfl := List.mem_singleton.1 hname
      exact hlast

/-- The names of a clean place lead there, and no link is followed. -/
theorem Clean.leads (h : Clean t loc) : Leads t 0 [] loc loc := by
  induction h with
  | root => exact .done
  | child h hname hentry ih => exact ih.append (.down hname.toGoesDown hentry .done)

/-- Every place where names lead from a clean place is clean. -/
theorem Leads.clean (ht : ∀ link target, t.entryAt link = some (.link target) →
      '\x00' ∉ target.toList) (h : Leads t n loc steps out) (hloc : Clean t loc)
    (hsteps : ∀ name ∈ steps, IsStepName name) : Clean t out := by
  induction h with
  | done => exact hloc
  | stay _ _ ih => exact ih hloc (List.forall_mem_cons.1 hsteps).2
  | up _ ih => exact ih hloc.dropLast (List.forall_mem_cons.1 hsteps).2
  | down hname hentry _ ih =>
    obtain ⟨hfirst, hrest⟩ := List.forall_mem_cons.1 hsteps
    exact ih (.child hloc (hfirst.isFileName hname) hentry) hrest
  | @follow n m loc mid out name target rest hname hentry hlink h ihLink ih =>
    have horigin : Clean t (origin loc target) := by
      unfold origin
      split
      · exact .root
      · exact hloc
    have hpieces : ∀ piece ∈ Path.pieces target, IsStepName piece := by
      intro piece hpiece
      obtain ⟨hslash, hsub⟩ := Path.mem_pieces hpiece
      exact ⟨hslash, fun hnul => ht _ target hentry (hsub hnul)⟩
    exact ih (ihLink horigin hpieces) (List.forall_mem_cons.1 hsteps).2

theorem refusalAt_ne_tooManyLinks (t : FileTree) (loc : Location) :
    t.refusalAt loc ≠ .tooManyLinks := by
  unfold refusalAt
  split <;> decide

/-- The operating system comes to a clean place by its names or to no place, and it follows no link.
-/
theorem follow_of_clean (h : Clean t (pre ++ steps)) :
    t.follow links pre steps = .ok (pre ++ steps) ∨
      ∃ e, e ≠ .tooManyLinks ∧ t.follow links pre steps = .error e := by
  induction steps generalizing pre with
  | nil =>
    rw [follow, List.append_nil]
    exact .inl rfl
  | cons name rest ih =>
    rw [List.append_cons] at h ⊢
    obtain ⟨-, hname, hentry⟩ := h.of_append.of_child
    rw [follow]
    split
    · exact .inr ⟨_, t.refusalAt_ne_tooManyLinks pre, rfl⟩
    · rw [if_neg hname.notDot, if_neg hname.notUp]
      split
      · exact .inr ⟨_, by decide, rfl⟩
      · split
        · exact .inr ⟨_, by decide, rfl⟩
        · next target heq => exact absurd heq (hentry target)
        · exact ih h

end FileTree

end PascalWorkspace
