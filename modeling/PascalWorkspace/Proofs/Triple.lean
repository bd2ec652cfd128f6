import PascalWorkspace.Proofs.Operation

/-! Operations of which it is known how they end: begun where one property holds, they give a result
and leave a state of which another one holds, or they fail in one of the ways that are expected. -/
namespace PascalWorkspace

namespace Operation

variable {σ α β : Type} {expected : Failure → Prop} {pre I : σ → Prop} {mid post : α → σ → Prop}
  {last : β → σ → Prop} {act : Operation σ α} {s : σ}

/-- Begun in a state with a property, an operation ends well or fails as expected. -/
def Triple (expected : Failure → Prop) (pre : σ → Prop) (act : Operation σ α)
    (post : α → σ → Prop) : Prop :=
  ∀ s, pre s → (∃ a t, outcome act s = (.ok a, t) ∧ post a t) ∨
    ∃ failure t, outcome act s = (.error failure, t) ∧ expected failure

/-- No failure is expected. -/
def Never : Failure → Prop := fun _ => False

theorem Triple.exists_ok (h : Triple Never pre act post) (hs : pre s) :
    ∃ a t, outcome act s = (.ok a, t) ∧ post a t := by
  obtain hok | ⟨_, _, _, hnever⟩ := h s hs
  · exact hok
  · exact hnever.elim

theorem triple_pure {a : α} (h : ∀ s, pre s → post a s) :
    Triple expected pre (pure a : Operation σ α) post := fun s hs => .inl ⟨a, s, rfl, h s hs⟩

theorem triple_throw {failure : Failure} (h : expected failure) :
    Triple expected pre (throw failure : Operation σ α) post :=
  fun s _ => .inr ⟨failure, s, rfl, h⟩

theorem triple_modify {f : σ → σ} (h : ∀ s, pre s → I (f s)) :
    Triple expected pre (modify f : Operation σ Unit) fun _ => I :=
  fun s hs => .inl ⟨(), f s, rfl, h s hs⟩

theorem triple_bind {f : α → Operation σ β} (hact : Triple expected pre act mid)
    (hf : ∀ a, Triple expected (mid a) (f a) last) : Triple expected pre (act >>= f) last := by
  intro s hs
  obtain ⟨a, t, hrun, ht⟩ | ⟨failure, t, hrun, hfailure⟩ := hact s hs
  · rw [outcome_bind_ok f hrun]
    exact hf a t ht
  · exact .inr ⟨failure, t, by rw [outcome_bind, hrun], hfailure⟩

/-- What is done may depend on the state that it is begun in. -/
theorem triple_get_bind {f : σ → Operation σ β}
    (hf : ∀ s, pre s → Triple expected pre (f s) last) :
    Triple expected pre (get >>= f) last := fun s hs => hf s hs s hs

/-- A path that cannot be used ends the operation. -/
theorem triple_ofPathResult_bind {r : Except PathError α} {f : α → Operation σ β}
    (hok : ∀ a, r = .ok a → Triple expected pre (f a) last)
    (herror : ∀ e, r = .error e → expected (.badPath e)) :
    Triple expected pre (ofPathResult r >>= f) last := by
  intro s hs
  cases hr : r with
  | ok a => exact hok a hr s hs
  | error e => exact .inr ⟨_, s, rfl, herror e hr⟩

theorem Triple.imp {post' : α → σ → Prop} (h : Triple expected pre act post)
    (hpost : ∀ a t, post a t → post' a t) : Triple expected pre act post' := by
  intro s hs
  obtain ⟨a, t, hrun, ht⟩ | hfailed := h s hs
  · exact .inl ⟨a, t, hrun, hpost a t ht⟩
  · exact .inr hfailed

/-- What begins with a fact that the state does not matter to may use it. -/
theorem triple_of_fact {P : Prop} (h : P → Triple expected pre act post) :
    Triple expected (fun s => pre s ∧ P) act post := fun s hs => h hs.2 s hs.1

theorem triple_forM {f : α → Operation σ Unit} {xs : List α}
    (h : ∀ x ∈ xs, Triple expected I (f x) fun _ => I) :
    Triple expected I (xs.forM f) fun _ => I := by
  induction xs with
  | nil => exact triple_pure fun _ hs => hs
  | cons x xs ih =>
    obtain ⟨hx, hxs⟩ := List.forall_mem_cons.1 h
    exact triple_bind hx fun _ => ih hxs

/-! ### What an operation can fail with -/

/-- Wherever it is begun, an operation fails in one of the ways that are expected, if it fails. -/
abbrev FailsAs (expected : Failure → Prop) (act : Operation σ α) : Prop :=
  Triple expected (fun _ => True) act fun _ _ => True

theorem FailsAs.of_outcome {failure : Failure} {t : σ} (h : FailsAs expected act)
    (hrun : outcome act s = (.error failure, t)) : expected failure := by
  obtain ⟨_, _, hok, -⟩ | ⟨_, _, herror, hfailure⟩ := h s trivial
  · cases hrun.symm.trans hok
  · cases hrun.symm.trans herror
    exact hfailure

theorem failsAs_pure (a : α) : FailsAs expected (pure a : Operation σ α) :=
  triple_pure fun _ _ => trivial

theorem failsAs_modify (f : σ → σ) : FailsAs expected (modify f : Operation σ Unit) :=
  triple_modify fun _ _ => trivial

/-- An operation that always gives a result fails in no way at all. -/
theorem failsAs_of_ok (h : ∀ s, ∃ a t, outcome act s = (.ok a, t)) : FailsAs expected act := by
  intro s _
  obtain ⟨a, t, hrun⟩ := h s
  exact .inl ⟨a, t, hrun, trivial⟩

theorem failsAs_ofPathResult {r : Except PathError α}
    (h : ∀ e, r = .error e → expected (.badPath e)) :
    FailsAs expected (ofPathResult r : Operation σ α) := by
  cases r with
  | ok a => exact failsAs_pure _
  | error e => exact triple_throw (h e rfl)

theorem failsAs_mapM {f : α → Operation σ β} {xs : List α} (h : ∀ x ∈ xs, FailsAs expected (f x)) :
    FailsAs expected (xs.mapM f) := by
  induction xs with
  | nil => exact failsAs_pure _
  | cons x xs ih =>
    obtain ⟨hx, hxs⟩ := List.forall_mem_cons.1 h
    rw [List.mapM_cons]
    exact triple_bind hx fun _ => triple_bind (ih hxs) fun _ => failsAs_pure _

/-- What is known of every result of an operation is known of the one that it gives. -/
theorem FailsAs.with_result {P : α → Prop} (h : FailsAs expected act)
    (hresult : ∀ s a t, outcome act s = (.ok a, t) → P a) :
    Triple expected (fun _ => True) act fun a _ => True ∧ P a := by
  intro s hs
  obtain ⟨a, t, hrun, -⟩ | hfailed := h s hs
  · exact .inl ⟨a, t, hrun, trivial, hresult s a t hrun⟩
  · exact .inr hfailed

end Operation

end PascalWorkspace
