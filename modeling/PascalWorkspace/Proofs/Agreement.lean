import Mathlib.Data.List.Forall2
import PascalWorkspace.Proofs.Triple

/-! Two operations that run side by side: begun in states that correspond, they end in states that
correspond, with results that correspond, or fail in the same way. A failure of the first can be
excused, and then nothing is said about the second. -/
namespace PascalWorkspace

namespace Operation

variable {σ τ α β γ δ : Type} {excused : Failure → Prop} {R : σ → τ → Prop} {Q : α → β → Prop}
  {P : γ → δ → Prop}

/-- How the ends of two runs compare. -/
inductive Agree (excused : Failure → Prop) (R : σ → τ → Prop) (Q : α → β → Prop) :
    Except Failure α × σ → Except Failure β × τ → Prop where
  | ok {a : α} {b : β} {s : σ} {t : τ} (hstate : R s t) (hresult : Q a b) :
    Agree excused R Q (.ok a, s) (.ok b, t)
  | fail {e : Failure} {s : σ} {t : τ} (hstate : R s t) :
    Agree excused R Q (.error e, s) (.error e, t)
  | excused {e : Failure} {s : σ} {other : Except Failure β × τ} (he : excused e) :
    Agree excused R Q (.error e, s) other

/-- Two operations agree wherever they begin in corresponding states. -/
def InStep (excused : Failure → Prop) (R : σ → τ → Prop) (Q : α → β → Prop)
    (act : Operation σ α) (act' : Operation τ β) : Prop :=
  ∀ s t, R s t → Agree excused R Q (outcome act s) (outcome act' t)

/-- Nothing is said about results. -/
def Any : α → β → Prop := fun _ _ => True

/-- Whatever fails is not excused, so the states correspond in any case. -/
theorem Agree.state {x : Except Failure α × σ} {y : Except Failure β × τ}
    (h : Agree Never R Q x y) : R x.2 y.2 := by
  cases h with
  | ok hstate => exact hstate
  | fail hstate => exact hstate
  | excused he => exact he.elim

theorem Agree.exists_ok {a : α} {s : σ} {y : Except Failure β × τ}
    (h : Agree excused R Q (.ok a, s) y) : ∃ b t, y = (.ok b, t) ∧ R s t ∧ Q a b := by
  cases h with
  | ok hstate hresult => exact ⟨_, _, rfl, hstate, hresult⟩

theorem inStep_pure {a : α} {b : β} (h : Q a b) :
    InStep excused R Q (pure a : Operation σ α) (pure b : Operation τ β) :=
  fun _ _ hst => .ok hst h

theorem inStep_throw (e : Failure) :
    InStep excused R Q (throw e : Operation σ α) (throw e : Operation τ β) :=
  fun _ _ hst => .fail hst

theorem inStep_modify {f : σ → σ} {g : τ → τ} (h : ∀ s t, R s t → R (f s) (g t)) :
    InStep excused R Any (modify f : Operation σ Unit) (modify g : Operation τ Unit) :=
  fun s t hst => .ok (h s t hst) trivial

theorem agree_bind {act : Operation σ α} {act' : Operation τ β} {f : α → Operation σ γ}
    {g : β → Operation τ δ} {s : σ} {t : τ}
    (hact : Agree excused R Q (outcome act s) (outcome act' t))
    (hnext : ∀ a b, Q a b → InStep excused R P (f a) (g b)) :
    Agree excused R P (outcome (act >>= f) s) (outcome (act' >>= g) t) := by
  rw [outcome_bind, outcome_bind]
  generalize outcome act s = x at hact ⊢
  generalize outcome act' t = y at hact ⊢
  cases hact with
  | ok hstate hresult => exact hnext _ _ hresult _ _ hstate
  | fail hstate => exact .fail hstate
  | excused he => exact .excused he

theorem inStep_bind {act : Operation σ α} {act' : Operation τ β} {f : α → Operation σ γ}
    {g : β → Operation τ δ} (hact : InStep excused R Q act act')
    (hnext : ∀ a b, Q a b → InStep excused R P (f a) (g b)) :
    InStep excused R P (act >>= f) (act' >>= g) :=
  fun s t hst => agree_bind (hact s t hst) hnext

/-- What is known of every result of the second operation is known of the one that it gives. -/
theorem InStep.with_result {act : Operation σ α} {act' : Operation τ β} {known : β → Prop}
    (h : InStep excused R Q act act')
    (hresult : ∀ t b u, outcome act' t = (.ok b, u) → known b) :
    InStep excused R (fun a b => Q a b ∧ known b) act act' := by
  intro s t hst
  have hagree := h s t hst
  rcases hrun : outcome act' t with ⟨_ | b, u⟩ <;> rw [hrun] at hagree <;>
    generalize outcome act s = x at hagree ⊢
  · cases hagree with
    | fail hstate => exact .fail hstate
    | excused he => exact .excused he
  · cases hagree with
    | ok hstate hb => exact .ok hstate ⟨hb, hresult t b u hrun⟩
    | excused he => exact .excused he

/-- What comes after a look at the states may depend on how they correspond. -/
theorem inStep_get_bind {f : σ → Operation σ γ} {g : τ → Operation τ δ}
    (h : ∀ s t, R s t → Agree excused R P (outcome (f s) s) (outcome (g t) t)) :
    InStep excused R P (get >>= f) (get >>= g) := h

theorem inStep_ofPathResult (r : Except PathError α) :
    InStep excused R Eq (ofPathResult r : Operation σ α) (ofPathResult r : Operation τ α) := by
  cases r with
  | ok a => exact inStep_pure rfl
  | error e => exact inStep_throw _

theorem inStep_mapM {f : α → Operation σ γ} {g : α → Operation τ γ} {xs : List α}
    (h : ∀ x ∈ xs, InStep excused R Eq (f x) (g x)) :
    InStep excused R Eq (xs.mapM f) (xs.mapM g) := by
  induction xs with
  | nil => exact inStep_pure rfl
  | cons x xs ih =>
    obtain ⟨hx, hxs⟩ := List.forall_mem_cons.1 h
    rw [List.mapM_cons, List.mapM_cons]
    refine inStep_bind hx fun y _ hsame => ?_
    subst hsame
    refine inStep_bind (ih hxs) fun ys _ hsame => ?_
    subst hsame
    exact inStep_pure rfl

theorem inStep_forM {xs : List α} {ys : List β} {f : α → Operation σ Unit}
    {g : β → Operation τ Unit} (hxs : List.Forall₂ Q xs ys)
    (h : ∀ x y, Q x y → InStep excused R Any (f x) (g y)) :
    InStep excused R Any (xs.forM f) (ys.forM g) := by
  induction hxs with
  | nil => exact inStep_pure trivial
  | cons hxy _ ih => exact inStep_bind (h _ _ hxy) fun _ _ _ => ih

end Operation

end PascalWorkspace
