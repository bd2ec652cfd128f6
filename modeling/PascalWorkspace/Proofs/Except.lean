import Mathlib.Data.List.Forall2

/-! What computations in sequence give if each may fail. -/
namespace PascalWorkspace

variable {ε α β : Type} {x : Except ε α} {f : α → Except ε β} {b : β} {e : ε} {xs : List α}
  {bs : List β}

theorem bind_eq_ok_iff : x >>= f = .ok b ↔ ∃ a, x = .ok a ∧ f a = .ok b := by
  cases x <;> simp [bind, Except.bind]

theorem bind_eq_error_iff :
    x >>= f = .error e ↔ x = .error e ∨ ∃ a, x = .ok a ∧ f a = .error e := by
  cases x <;> simp [bind, Except.bind]

/-- A list of computations succeeds if each does. -/
theorem mapM_eq_ok_iff : xs.mapM f = .ok bs ↔ List.Forall₂ (fun a b => f a = .ok b) xs bs := by
  induction xs generalizing bs with
  | nil =>
    rw [List.forall₂_nil_left_iff, List.mapM_nil]
    exact ⟨fun h => (Except.ok.inj h).symm, fun h => congrArg Except.ok h.symm⟩
  | cons a rest ih =>
    rw [List.mapM_cons, List.forall₂_cons_left_iff]
    constructor
    · intro h
      obtain ⟨b, hb, h⟩ := bind_eq_ok_iff.1 h
      obtain ⟨others, hothers, h⟩ := bind_eq_ok_iff.1 h
      exact ⟨b, others, hb, ih.1 hothers, (Except.ok.inj h).symm⟩
    · rintro ⟨b, others, hb, hothers, rfl⟩
      rw [hb, ih.2 hothers]
      rfl

/-- A list of computations fails as the first of them that fails. -/
theorem mapM_eq_error_iff : xs.mapM f = .error e ↔ ∃ early a late, xs = early ++ a :: late ∧
    (∀ other ∈ early, ∃ b, f other = .ok b) ∧ f a = .error e := by
  induction xs with
  | nil => exact iff_of_false (fun h => nomatch h) (by simp)
  | cons a rest ih =>
    rw [List.mapM_cons]
    constructor
    · intro h
      obtain ha | ⟨b, hb, h⟩ := bind_eq_error_iff.1 h
      · exact ⟨[], a, rest, rfl, List.forall_mem_nil _, ha⟩
      · obtain h | ⟨others, -, hreturn⟩ := bind_eq_error_iff.1 h
        · obtain ⟨early, failing, late, rfl, hearly, hfailing⟩ := ih.1 h
          exact ⟨a :: early, failing, late, rfl, List.forall_mem_cons.2 ⟨⟨b, hb⟩, hearly⟩, hfailing⟩
        · cases hreturn
    · rintro ⟨early, failing, late, hsplit, hearly, hfailing⟩
      cases early with
      | nil =>
        obtain ⟨rfl, rfl⟩ := List.cons.inj hsplit
        rw [hfailing]
        rfl
      | cons first early =>
        obtain ⟨rfl, rfl⟩ := List.cons.inj hsplit
        obtain ⟨⟨b, hb⟩, hearly⟩ := List.forall_mem_cons.1 hearly
        rw [hb, ih.2 ⟨early, failing, late, rfl, hearly, hfailing⟩]
        rfl

theorem exists_mapM (h : ∀ a ∈ xs, ∃ b, f a = .ok b) : ∃ bs, xs.mapM f = .ok bs := by
  cases hall : xs.mapM f with
  | ok bs => exact ⟨bs, rfl⟩
  | error e =>
    obtain ⟨early, a, late, rfl, -, he⟩ := mapM_eq_error_iff.1 hall
    obtain ⟨b, hb⟩ := h a (by simp)
    cases he.symm.trans hb

end PascalWorkspace
