import PascalWorkspace.Xml.Token

/-! Readers of text that may fail. Each has one specification, and one that is put together from
others is judged by theirs. The small readers give characters that a document may hold if they are
given such characters. -/
namespace PascalWorkspace.Xml

variable {α β : Type} {o : Option α} {f : α → Option β} {P : α → Prop} {R : β → Prop}
  {cs ds marker : Chars} {c : Char}

/-- What comes out of a reader, if anything does, has a property. -/
def Meets (o : Option α) (P : α → Prop) : Prop := ∀ a, o = some a → P a

theorem meets_none : Meets (none : Option α) P := fun _ h => nomatch h

theorem meets_some {a : α} (h : P a) : Meets (some a) P := fun _ heq => Option.some.inj heq ▸ h

theorem meets_any (o : Option α) : Meets o fun _ => True := fun _ _ => trivial

theorem Meets.bind (h : Meets o P) (hf : ∀ a, P a → Meets (f a) R) : Meets (o >>= f) R := by
  intro b hb
  obtain ⟨a, ha, hb⟩ := Option.bind_eq_some_iff.1 hb
  exact hf a (h a ha) b hb

theorem Meets.map {g : α → β} (h : Meets o P) (hg : ∀ a, P a → R (g a)) : Meets (o.map g) R := by
  intro b hb
  obtain ⟨a, ha, rfl⟩ := Option.map_eq_some_iff.1 hb
  exact hg a (h a ha)

theorem meets_ite {p : Prop} [Decidable p] {a b : Option α} (ha : p → Meets a P)
    (hb : ¬ p → Meets b P) : Meets (if p then a else b) P := by
  split
  · next hp => exact ha hp
  · next hp => exact hb hp

theorem meets_mapM {g : α → Option β} {xs : List α} (hg : ∀ x ∈ xs, Meets (g x) R) :
    Meets (xs.mapM g) fun ys => ∀ y ∈ ys, R y := by
  induction xs with
  | nil => exact meets_some (List.forall_mem_nil _)
  | cons x xs ih =>
    obtain ⟨hx, hxs⟩ := List.forall_mem_cons.1 hg
    rw [List.mapM_cons]
    exact hx.bind fun _ hy => (ih hxs).bind fun _ hys =>
      meets_some (List.forall_mem_cons.2 ⟨hy, hys⟩)

/-- A text of characters that a document may hold. -/
def Legal (cs : Chars) : Prop := ∀ c ∈ cs, isXmlChar c = true

/-- What is read is not looked at, and the rest is legal. -/
def LegalRest (r : α × Chars) : Prop := Legal r.2

def LegalParts (r : Chars × Chars) : Prop := Legal r.1 ∧ Legal r.2

theorem legal_nil : Legal [] := List.forall_mem_nil _

theorem legal_cons : Legal (c :: cs) ↔ isXmlChar c = true ∧ Legal cs := List.forall_mem_cons

theorem Legal.tail (h : Legal (c :: cs)) : Legal cs := (legal_cons.1 h).2

theorem Legal.of_subset (h : Legal cs) (hsub : ds ⊆ cs) : Legal ds := fun c hc => h c (hsub hc)

theorem Legal.append (h : Legal cs) (hds : Legal ds) : Legal (cs ++ ds) :=
  fun c hc => (List.mem_append.1 hc).elim (h c) (hds c)

theorem legal_reverse : Legal cs.reverse ↔ Legal cs := by simp [Legal]

theorem Legal.takeWhile (h : Legal cs) (p : Char → Bool) : Legal (cs.takeWhile p) :=
  h.of_subset (List.takeWhile_prefix p).subset

theorem Legal.dropWhile (h : Legal cs) (p : Char → Bool) : Legal (cs.dropWhile p) :=
  h.of_subset (List.dropWhile_suffix p).subset

/-! ### Small parts -/

theorem Legal.skipSpace (h : Legal cs) : Legal (skipSpace cs) := h.dropWhile _

theorem meets_needSpace (h : Legal cs) : Meets (needSpace cs) Legal := by
  unfold needSpace
  split
  · exact meets_ite (fun _ => meets_some h.tail.skipSpace) fun _ => meets_none
  · exact meets_none

theorem meets_drop? (h : Legal cs) : Meets (drop? marker cs) Legal := by
  induction marker generalizing cs with
  | nil => exact meets_some h
  | cons x marker ih =>
    cases cs with
    | nil => exact meets_none
    | cons c cs => exact meets_ite (fun _ => ih h.tail) fun _ => meets_none

theorem meets_splitAt? (h : Legal cs) : Meets (splitAt? marker cs) LegalParts := by
  induction cs with
  | nil => exact meets_none
  | cons c cs ih =>
    unfold splitAt?
    split
    · next after hafter => exact meets_some ⟨legal_nil, meets_drop? h after hafter⟩
    · exact (ih h.tail).map fun _ hparts => ⟨legal_cons.2 ⟨(legal_cons.1 h).1, hparts.1⟩, hparts.2⟩

theorem meets_takeQuoted (h : Legal cs) : Meets (takeQuoted cs) LegalParts := by
  unfold takeQuoted
  split
  · next q rest =>
    refine meets_ite (fun _ => ?_) fun _ => meets_none
    split
    · next after hafter =>
      have hbehind := h.tail.dropWhile (· ≠ q)
      rw [hafter] at hbehind
      exact meets_some ⟨h.tail.takeWhile _, hbehind.tail⟩
    · exact meets_none
  · exact meets_none

theorem meets_takeName (h : Legal cs) : Meets (takeName cs) LegalParts := by
  unfold takeName
  split
  · exact meets_ite (fun _ => meets_some ⟨legal_cons.2 ⟨(legal_cons.1 h).1, h.tail.takeWhile _⟩,
      h.tail.dropWhile _⟩) fun _ => meets_none
  · exact meets_none

theorem meets_takeToken (h : Legal cs) : Meets (takeToken cs) LegalRest := by
  unfold takeToken
  split
  · exact meets_none
  · exact meets_some (h.dropWhile _)

theorem meets_takeQName (h : Legal cs) : Meets (takeQName cs) LegalRest := by
  refine (meets_takeName h).bind fun ⟨first, rest⟩ hrest => ?_
  have hrest : Legal rest := hrest.2
  dsimp only
  split
  · refine (meets_takeName hrest.tail).bind fun ⟨second, rest⟩ hrest => ?_
    exact meets_ite (fun _ => meets_none) fun _ => meets_some hrest.2
  · exact meets_some hrest

theorem meets_takeLooseQName (h : Legal cs) : Meets (takeLooseQName cs) LegalRest := by
  refine (meets_takeName h).bind fun ⟨first, rest⟩ hrest => ?_
  have hrest : Legal rest := hrest.2
  dsimp only
  split
  · next rest =>
    split
    · exact meets_none
    · exact meets_none
    · exact meets_some (hrest.tail.dropWhile isNameChar)
  · exact meets_some hrest

/-- What follows an ampersand. -/
def Reference.IsLegal : Reference → Prop
  | .char c => isXmlChar c = true
  | .entity name => Legal name

theorem meets_charOfNumber (n : Nat) : Meets (charOfNumber n) (isXmlChar · = true) :=
  meets_ite (fun _ => meets_ite (fun h => meets_some h) fun _ => meets_none) fun _ => meets_none

theorem meets_takeReference (h : Legal cs) :
    Meets (takeReference cs) fun r => r.1.IsLegal ∧ Legal r.2 := by
  have hnumber {base : Nat} {rest : Chars} (hrest : Legal rest) :
      Meets (do
        let parts ← splitAt? [';'] rest
        return (Reference.char (← charOfNumber (← number? base parts.1)), parts.2))
        fun r => r.1.IsLegal ∧ Legal r.2 :=
    (meets_splitAt? hrest).bind fun _ hparts => (meets_any _).bind fun n _ =>
      (meets_charOfNumber n).bind fun _ hc => meets_some ⟨hc, hparts.2⟩
  unfold takeReference
  split
  · exact hnumber h.tail.tail
  · exact hnumber h.tail
  · exact (meets_takeName h).bind fun _ hname =>
      (meets_drop? hname.2).bind fun _ hrest => meets_some ⟨hname.1, hrest⟩

theorem meets_predefined (name : Chars) : Meets (predefined name) (isXmlChar · = true) := by
  unfold predefined
  split <;> first | exact meets_some (by decide) | exact meets_none

theorem meets_skipComment (h : Legal cs) : Meets (skipComment cs) Legal :=
  (meets_splitAt? h).bind fun _ hparts => meets_drop? hparts.2

theorem meets_skipInstruction (h : Legal cs) : Meets (skipInstruction cs) Legal := by
  refine (meets_takeName h).bind fun ⟨target, rest⟩ hrest => ?_
  refine meets_ite (fun _ => meets_none) fun _ => ?_
  split
  · next after hafter => exact meets_some (meets_drop? hrest.2 after hafter)
  · exact (meets_needSpace hrest.2).bind fun _ hrest =>
      (meets_splitAt? hrest).bind fun _ hparts => meets_some hparts.2

end PascalWorkspace.Xml
