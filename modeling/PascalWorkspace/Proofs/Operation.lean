import Mathlib.Order.Defs.Unbundled
import PascalWorkspace.Workspace

/-! How an operation runs: its result together with the state it leaves, and the relations between
the state before and the state after that every run respects, also one that fails half way. -/
namespace PascalWorkspace

namespace Operation

variable {σ α β : Type}

/-- The result of an operation begun in a state, and the state left. -/
def outcome (act : Operation σ α) (s : σ) : Except Failure α × σ := act.run.run s

/-- The state that an operation leaves, whether it fails or not. -/
def after (act : Operation σ α) (s : σ) : σ := (outcome act s).2

@[simp] theorem outcome_pure (a : α) (s : σ) :
    outcome (pure a : Operation σ α) s = (.ok a, s) := rfl

@[simp] theorem outcome_throw (e : Failure) (s : σ) :
    outcome (throw e : Operation σ α) s = (.error e, s) := rfl

@[simp] theorem outcome_get (s : σ) : outcome (get : Operation σ σ) s = (.ok s, s) := rfl

@[simp] theorem outcome_set (t s : σ) : outcome (set t : Operation σ Unit) s = (.ok (), t) := rfl

@[simp] theorem outcome_modify (f : σ → σ) (s : σ) :
    outcome (modify f : Operation σ Unit) s = (.ok (), f s) := rfl

theorem outcome_bind (act : Operation σ α) (f : α → Operation σ β) (s : σ) :
    outcome (act >>= f) s =
      match outcome act s with
      | (.ok a, t) => outcome (f a) t
      | (.error e, t) => (.error e, t) := by
  simp only [outcome, ExceptT.run, StateT.run, bind, ExceptT.bind, ExceptT.mk, StateT.bind]
  rcases act s with ⟨e | a, t⟩ <;> rfl

theorem outcome_bind_ok {act : Operation σ α} {s t : σ} {a : α} (f : α → Operation σ β)
    (h : outcome act s = (.ok a, t)) : outcome (act >>= f) s = outcome (f a) t := by
  rw [outcome_bind, h]

/-- A sequence that succeeds has two successful parts. -/
theorem outcome_bind_eq_ok {act : Operation σ α} {f : α → Operation σ β} {s u : σ} {b : β}
    (h : outcome (act >>= f) s = (.ok b, u)) :
    ∃ a t, outcome act s = (.ok a, t) ∧ outcome (f a) t = (.ok b, u) := by
  rw [outcome_bind] at h
  rcases hact : outcome act s with ⟨e | a, t⟩
  · simp [hact] at h
  · exact ⟨a, t, rfl, by simpa [hact] using h⟩

theorem outcome_forM_singleton (f : α → Operation σ Unit) (a : α) (s : σ) :
    outcome ([a].forM f) s = outcome (f a) s := by
  change outcome (f a >>= fun _ => pure ()) s = _
  rw [outcome_bind]
  obtain ⟨_ | _, _⟩ := outcome (f a) s <;> rfl

/-- A list of operations that succeed can be cut in two. -/
theorem outcome_forM_append {f : α → Operation σ Unit} {xs ys : List α} {s u : σ}
    (h : outcome ((xs ++ ys).forM f) s = (.ok (), u)) :
    ∃ t, outcome (xs.forM f) s = (.ok (), t) ∧ outcome (ys.forM f) t = (.ok (), u) := by
  induction xs generalizing s with
  | nil => exact ⟨s, rfl, h⟩
  | cons x xs ih =>
    obtain ⟨_, t, hx, hnext⟩ := outcome_bind_eq_ok h
    obtain ⟨t', hxs, hys⟩ := ih hnext
    exact ⟨t', (outcome_bind_ok _ hx).trans hxs, hys⟩

@[simp] theorem outcome_ofPathResult_ok (a : α) (s : σ) :
    outcome (ofPathResult (.ok a) : Operation σ α) s = (.ok a, s) := rfl

@[simp] theorem outcome_ofPathResult_error (e : PathError) (s : σ) :
    outcome (ofPathResult (.error e) : Operation σ α) s = (.error (.badPath e), s) := rfl

theorem outcome_ofPathResult_eq_ok {result : Except PathError α} {a : α} {s t : σ}
    (h : outcome (ofPathResult result : Operation σ α) s = (.ok a, t)) : result = .ok a ∧ t = s := by
  cases result with
  | ok found =>
    cases h
    exact ⟨rfl, rfl⟩
  | error e => cases h

/-- Every run of the operation leads from a state to a related one. -/
def Keeps (R : σ → σ → Prop) (act : Operation σ α) : Prop := ∀ s, R s (after act s)

section Keeps

variable {R : σ → σ → Prop}

theorem Keeps.of_outcome {act : Operation σ α} {s t : σ} {result : Except Failure α}
    (h : Keeps R act) (hrun : outcome act s = (result, t)) : R s t := by
  have hs := h s
  rwa [after, hrun] at hs

variable [IsPreorder σ R]

theorem keeps_of_outcome {act : Operation σ α} (h : ∀ s, (outcome act s).2 = s) : Keeps R act := by
  intro s
  rw [after, h]
  exact Std.Refl.refl s

theorem keeps_pure (a : α) : Keeps R (pure a : Operation σ α) := keeps_of_outcome fun _ => rfl

theorem keeps_throw (e : Failure) : Keeps R (throw e : Operation σ α) :=
  keeps_of_outcome fun _ => rfl

theorem keeps_get : Keeps R (get : Operation σ σ) := keeps_of_outcome fun _ => rfl

theorem keeps_ofPathResult (r : Except PathError α) : Keeps R (ofPathResult r : Operation σ α) := by
  cases r with
  | ok a => exact keeps_pure a
  | error e => exact keeps_throw _

/-- What follows a part may use that it begins with a result of that part. -/
theorem keeps_bind_of_ok {act : Operation σ α} {f : α → Operation σ β} (hact : Keeps R act)
    (hf : ∀ s a, (outcome act s).1 = .ok a → Keeps R (f a)) : Keeps R (act >>= f) := by
  intro s
  have hs : R s (outcome act s).2 := hact s
  rw [after, outcome_bind]
  rcases h : outcome act s with ⟨e | a, t⟩ <;> rw [h] at hs
  · exact hs
  · exact IsTrans.trans _ _ _ hs (hf s a (by rw [h]) t)

theorem keeps_bind {act : Operation σ α} {f : α → Operation σ β} (hact : Keeps R act)
    (hf : ∀ a, Keeps R (f a)) : Keeps R (act >>= f) := keeps_bind_of_ok hact fun _ a _ => hf a

theorem keeps_forM {f : α → Operation σ Unit} {xs : List α} (h : ∀ x ∈ xs, Keeps R (f x)) :
    Keeps R (xs.forM f) := by
  induction xs with
  | nil => exact keeps_pure ()
  | cons x xs ih =>
    obtain ⟨hx, hxs⟩ := List.forall_mem_cons.1 h
    exact keeps_bind hx fun _ => ih hxs

theorem keeps_mapM {f : α → Operation σ β} (h : ∀ a, Keeps R (f a)) (xs : List α) :
    Keeps R (xs.mapM f) := by
  induction xs with
  | nil => exact keeps_pure []
  | cons x xs ih =>
    rw [List.mapM_cons]
    exact keeps_bind (h x) fun _ => keeps_bind ih fun _ => keeps_pure _

end Keeps

end Operation

end PascalWorkspace
