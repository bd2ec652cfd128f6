import PascalWorkspace.Proofs.Xml.Token
import PascalWorkspace.Xml.Doctype

/-! The entities and the values of attributes that a document type declares consist of characters
that a document may hold. -/
namespace PascalWorkspace.Xml

variable {cs name : Chars} {d : Doctype}

/-- A replacement text that is known is legal. -/
def EntityBody.IsLegal : EntityBody → Prop
  | .internal text => Legal text
  | _ => True

/-- All that elements may be given by declarations is legal. -/
structure Doctype.IsLegal (d : Doctype) : Prop where
  entities : ∀ e ∈ d.entities, e.2.IsLegal
  values : ∀ rule ∈ d.rules, ∀ value ∈ rule.value, Legal value

theorem Doctype.IsLegal.entity (hd : d.IsLegal) {text : Chars}
    (htext : d.entity? name = some (.internal text)) : Legal text :=
  hd.entities (name, .internal text) (by
    obtain ⟨before, behind, hsplit, -⟩ := List.lookup_eq_some_iff.1 htext
    simp [hsplit])

theorem legal_addSpace {isCdata : Bool} (h : Legal cs) : Legal (addSpace isCdata cs) := by
  unfold addSpace
  split
  · exact h
  · exact legal_cons.2 ⟨by decide, h⟩

theorem meets_attributeChars (hd : d.IsLegal) {isCdata : Bool} {fuel : Nat} {opened : List Chars}
    {reversed : Chars} (hreversed : Legal reversed) (h : Legal cs) :
    Meets (attributeChars d isCdata fuel opened reversed cs) Legal := by
  induction fuel generalizing opened reversed cs with
  | zero =>
    cases cs with
    | nil => exact meets_some hreversed
    | cons c rest => exact meets_none
  | succ fuel ih =>
    unfold attributeChars
    split
    · exact meets_some hreversed
    · exact meets_none
    · next rest heq =>
      obtain rfl := Nat.succ.inj heq
      refine (meets_takeReference h.tail).bind fun ⟨reference, rest⟩ ⟨hreference, hrest⟩ => ?_
      cases reference with
      | char c =>
        refine ih ?_ hrest
        split
        · exact legal_addSpace hreversed
        · exact legal_cons.2 ⟨hreference, hreversed⟩
      | entity name =>
        dsimp only
        split
        · next c hc => exact ih (legal_cons.2 ⟨meets_predefined name c hc, hreversed⟩) hrest
        · split
          · exact meets_ite (fun _ => meets_none) fun _ => ih hreversed hrest
          · next text htext =>
            refine meets_ite (fun _ => meets_none) fun _ => ?_
            exact (ih hreversed (hd.entity htext)).bind fun _ hinner => ih hinner hrest
          · exact meets_none
    · next rest heq =>
      obtain rfl := Nat.succ.inj heq
      exact ih (legal_addSpace hreversed) h.tail.tail
    · next c rest _ _ heq =>
      obtain rfl := Nat.succ.inj heq
      refine meets_ite (fun _ => meets_none) fun _ => meets_ite (fun _ => ?_) fun _ => ?_
      · exact ih (legal_addSpace hreversed) h.tail
      · exact ih (legal_cons.2 ⟨(legal_cons.1 h).1, hreversed⟩) h.tail

theorem meets_attributeValue (hd : d.IsLegal) (isCdata : Bool) (h : Legal cs) :
    Meets (attributeValue d isCdata cs) Legal := by
  refine (meets_attributeChars hd legal_nil h).bind fun reversed hreversed => ?_
  split
  · refine meets_some (legal_reverse.2 ?_)
    split
    · exact hreversed
    · exact hreversed.tail
  · exact meets_some (legal_reverse.2 hreversed)

theorem meets_entityText {fuel : Nat} (h : Legal cs) : Meets (entityText fuel cs) Legal := by
  induction fuel generalizing cs with
  | zero =>
    cases cs with
    | nil => exact meets_some legal_nil
    | cons c rest => exact meets_none
  | succ fuel ih =>
    unfold entityText
    split
    · exact meets_some legal_nil
    · exact meets_none
    · next rest heq =>
      obtain rfl := Nat.succ.inj heq
      refine (meets_takeReference h.tail).bind fun ⟨reference, rest⟩ ⟨hreference, hrest⟩ => ?_
      refine (ih hrest).bind fun text htext => ?_
      cases reference with
      | char c => exact meets_some (legal_cons.2 ⟨hreference, htext⟩)
      | entity name =>
        have hend : Legal (';' :: text) := legal_cons.2 ⟨by decide, htext⟩
        exact meets_some (legal_cons.2 ⟨by decide, Legal.append hreference hend⟩)
    · next rest heq =>
      obtain rfl := Nat.succ.inj heq
      exact (ih h.tail.tail).map fun _ htext => legal_cons.2 ⟨by decide, htext⟩
    · next c rest _ _ heq =>
      obtain rfl := Nat.succ.inj heq
      refine meets_ite (fun _ => meets_none) fun _ => (ih h.tail).map fun _ htext => ?_
      refine legal_cons.2 ⟨?_, htext⟩
      split
      · decide
      · exact (legal_cons.1 h).1

theorem meets_checkEnd {allowed : Char → Bool} (h : Legal cs) :
    Meets (checkEnd allowed cs) Legal := by
  unfold checkEnd
  split
  · exact meets_ite (fun _ => meets_some h) fun _ => meets_none
  · exact meets_none

theorem meets_takeDeclQName (h : Legal cs) : Meets (takeDeclQName cs) LegalRest :=
  (meets_takeLooseQName h).bind fun _ hrest => (meets_checkEnd hrest).bind fun _ hrest =>
    meets_some hrest

theorem meets_takeDeclName (h : Legal cs) : Meets (takeDeclName cs) LegalRest :=
  (meets_takeName h).bind fun _ hparts => (meets_checkEnd hparts.2).bind fun _ hrest =>
    meets_some hrest

theorem meets_takeLiteral (h : Legal cs) : Meets (takeLiteral cs) LegalParts :=
  (meets_takeQuoted h).bind fun _ hparts => (meets_checkEnd hparts.2).bind fun _ hrest =>
    meets_some ⟨hparts.1, hrest⟩

theorem meets_takeExternalId {keyword : Chars} (h : Legal cs) :
    Meets (takeExternalId keyword cs) Legal := by
  refine meets_ite (fun _ => ?_) fun _ => meets_ite (fun _ => ?_) fun _ => meets_none
  · exact (meets_needSpace h).bind fun _ hrest => (meets_takeLiteral hrest).bind fun _ hparts =>
      meets_some hparts.2
  · refine (meets_needSpace h).bind fun _ hrest => (meets_takeLiteral hrest).bind fun _ hparts => ?_
    refine meets_ite (fun _ => ?_) fun _ => meets_none
    exact (meets_needSpace hparts.2).bind fun _ hrest => (meets_takeLiteral hrest).bind
      fun _ hparts => meets_some hparts.2

theorem meets_closeDecl (h : Legal cs) : Meets (closeDecl cs) Legal := meets_drop? h.skipSpace

theorem meets_takeEntityBody {isParameter isProcessing : Bool} (h : Legal cs) :
    Meets (takeEntityBody isParameter isProcessing cs) fun r => r.1.IsLegal ∧ Legal r.2 := by
  have hliteral : Meets (do
      let parts ← takeLiteral cs
      let rest ← closeDecl parts.2
      if isProcessing then
        let text ← entityText (parts.1.length + 1) parts.1
        return (EntityBody.internal text, rest)
      else return (.internal [], rest)) fun r => r.1.IsLegal ∧ Legal r.2 := by
    refine (meets_takeLiteral h).bind fun _ hparts => (meets_closeDecl hparts.2).bind
      fun _ hrest => meets_ite (fun _ => ?_) fun _ => meets_some ⟨legal_nil, hrest⟩
    exact (meets_entityText hparts.1).bind fun _ htext => meets_some ⟨htext, hrest⟩
  unfold takeEntityBody
  split
  · exact hliteral
  · exact hliteral
  · refine (meets_takeDeclName h).bind fun _ hrest => (meets_takeExternalId hrest).bind
      fun _ hrest => ?_
    split
    · next after hafter => exact meets_some ⟨trivial, meets_closeDecl hrest after hafter⟩
    · refine meets_ite (fun _ => meets_none) fun _ => (meets_needSpace hrest).bind fun _ hrest =>
        (meets_takeDeclName hrest).bind fun _ hrest => meets_ite (fun _ => ?_) fun _ => meets_none
      exact (meets_needSpace hrest).bind fun _ hrest => (meets_takeDeclName hrest).bind
        fun _ hrest => (meets_closeDecl hrest).bind fun _ hrest => meets_some ⟨trivial, hrest⟩

/-- What a reader of declarations has come to. -/
def LegalState (r : Doctype × Chars) : Prop := r.1.IsLegal ∧ Legal r.2

theorem Doctype.IsLegal.addEntity (hd : d.IsLegal) {body : EntityBody} (hbody : body.IsLegal) :
    (d.addEntity name body).IsLegal := by
  unfold Doctype.addEntity
  split
  · exact ⟨List.forall_mem_append.2 ⟨hd.entities, List.forall_mem_singleton.2 hbody⟩, hd.values⟩
  · exact hd

theorem Doctype.IsLegal.addRule (hd : d.IsLegal) {rule : AttributeRule}
    (hrule : ∀ value ∈ rule.value, Legal value) : (d.addRule rule).IsLegal := by
  unfold Doctype.addRule
  split
  · exact hd
  · split
    · exact hd
    · exact ⟨hd.entities, List.forall_mem_append.2 ⟨hd.values, List.forall_mem_singleton.2 hrule⟩⟩

theorem meets_entityDecl (hd : d.IsLegal) (h : Legal cs) : Meets (entityDecl d cs) LegalState := by
  refine (meets_needSpace h).bind fun cs h => ?_
  split
  · exact (meets_needSpace h.tail).bind fun _ hrest => (meets_takeDeclName hrest).bind
      fun _ hrest => (meets_needSpace hrest).bind fun _ hrest => (meets_takeEntityBody hrest).bind
        fun _ hbody => meets_some ⟨hd, hbody.2⟩
  · exact (meets_takeDeclName h).bind fun _ hrest => (meets_needSpace hrest).bind fun _ hrest =>
      (meets_takeEntityBody hrest).bind fun _ hbody => meets_some ⟨hd.addEntity hbody.1, hbody.2⟩

theorem meets_takeAlternatives {take : Chars → Option (Chars × Chars)}
    (htake : ∀ {cs}, Legal cs → Meets (take cs) LegalRest) {fuel : Nat} (h : Legal cs) :
    Meets (takeAlternatives take fuel cs) Legal := by
  induction fuel generalizing cs with
  | zero => exact meets_none
  | succ fuel ih =>
    refine (htake h.skipSpace).bind fun ⟨_, rest⟩ hrest => ?_
    have hrest : Legal (skipSpace rest) := Legal.skipSpace hrest
    dsimp only
    split
    · next heq => exact ih (heq ▸ hrest).tail
    · next heq => exact meets_checkEnd (heq ▸ hrest).tail
    · exact meets_none

theorem meets_takeDeclToken (h : Legal cs) : Meets (takeDeclToken cs) LegalRest :=
  (meets_takeToken h).bind fun _ hrest => (meets_checkEnd hrest).bind fun _ hrest =>
    meets_some hrest

theorem meets_takeAttributeType (h : Legal cs) : Meets (takeAttributeType cs) LegalRest := by
  unfold takeAttributeType
  split
  · exact (meets_takeAlternatives meets_takeDeclToken h.tail).bind fun _ hrest => meets_some hrest
  · refine (meets_takeDeclName h).bind fun _ hrest => meets_ite (fun _ => meets_some hrest) fun _ =>
      meets_ite (fun _ => meets_some hrest) fun _ => meets_ite (fun _ => ?_) fun _ => meets_none
    exact (meets_needSpace hrest).bind fun _ hrest => (meets_drop? hrest).bind fun _ hrest =>
      (meets_takeAlternatives meets_takeDeclName hrest).bind fun _ hrest => meets_some hrest

/-- A default value, if there is one, is legal. -/
def LegalDefault (value : Option Chars) : Prop := ∀ text ∈ value, Legal text

theorem legalDefault_none : LegalDefault none := fun _ h => (Option.not_mem_none _ h).elim

theorem legalDefault_some (h : Legal cs) : LegalDefault (some cs) :=
  fun _ htext => Option.some.inj htext ▸ h

theorem meets_takeDefault (h : Legal cs) :
    Meets (takeDefault cs) fun r => LegalDefault r.1 ∧ Legal r.2 := by
  unfold takeDefault
  split
  · refine (meets_takeDeclName h.tail).bind fun _ hrest => meets_ite (fun _ => ?_) fun _ =>
      meets_ite (fun _ => ?_) fun _ => meets_none
    · exact meets_some ⟨legalDefault_none, hrest⟩
    · exact (meets_needSpace hrest).bind fun _ hrest => (meets_takeLiteral hrest).bind
        fun _ hparts => meets_some ⟨legalDefault_some hparts.1, hparts.2⟩
  · exact (meets_takeLiteral h).bind fun _ hparts =>
      meets_some ⟨legalDefault_some hparts.1, hparts.2⟩

theorem meets_attributeDecls {element : Chars} {fuel : Nat} (hd : d.IsLegal) (h : Legal cs) :
    Meets (attributeDecls element fuel d cs) LegalState := by
  induction fuel generalizing d cs with
  | zero => exact meets_none
  | succ fuel ih =>
    unfold attributeDecls
    split
    · next heq => exact meets_some ⟨hd, (heq ▸ h.skipSpace).tail⟩
    · refine (meets_needSpace h).bind fun _ hrest => (meets_takeDeclQName hrest).bind
        fun ⟨name, _⟩ hrest => (meets_needSpace hrest).bind fun _ hrest =>
          (meets_takeAttributeType hrest).bind fun ⟨isCdata, _⟩ hrest =>
            (meets_needSpace hrest).bind fun _ hrest => (meets_takeDefault hrest).bind
              fun ⟨written, rest⟩ ⟨hwritten, hrest⟩ => ?_
      have hnext : ∀ value, LegalDefault value →
          Meets (attributeDecls element fuel (d.addRule ⟨element, name, isCdata, value⟩) rest)
            LegalState := fun value hvalue => ih (hd.addRule hvalue) hrest
      cases written with
      | none => exact hnext none legalDefault_none
      | some text =>
        refine meets_ite (fun _ => ?_) fun _ => hnext none legalDefault_none
        have hvalue := meets_attributeValue hd isCdata (hwritten text rfl)
        exact (hvalue.map fun _ h => legalDefault_some h).bind hnext

theorem meets_attributeListDecl (hd : d.IsLegal) (h : Legal cs) :
    Meets (attributeListDecl d cs) LegalState :=
  (meets_needSpace h).bind fun _ hrest => (meets_takeDeclQName hrest).bind fun _ hrest =>
    meets_attributeDecls hd hrest

theorem Legal.skipRepetition (h : Legal cs) : Legal (skipRepetition cs) := by
  unfold Xml.skipRepetition
  split <;> first | exact h.tail | exact h

theorem meets_takeModelName (h : Legal cs) : Meets (takeModelName cs) Legal := by
  refine (meets_takeLooseQName h).bind fun ⟨_, rest⟩ hrest => ?_
  have hrest : Legal rest := hrest
  dsimp only
  split <;> first | exact meets_some hrest.tail | exact meets_checkEnd hrest

theorem meets_skipGroups {fuel : Nat} {groups : List (Option Char)} {needsParticle : Bool}
    (h : Legal cs) : Meets (skipGroups fuel groups needsParticle cs) Legal := by
  induction fuel generalizing groups needsParticle cs with
  | zero => exact meets_none
  | succ fuel ih =>
    cases groups with
    | nil => exact meets_some h
    | cons connector outer =>
      have hspace := h.skipSpace
      unfold skipGroups
      split
      · next heq => exact meets_ite (fun _ => ih (heq ▸ hspace).tail) fun _ => meets_none
      · next rest heq =>
        have hrest : Legal rest := (heq ▸ hspace).tail
        refine meets_ite (fun _ => meets_none) fun _ => meets_ite (fun _ => ?_) fun _ => ?_
        · exact ih hrest.skipRepetition
        · exact (meets_checkEnd hrest).bind fun _ hrest => ih hrest
      · next c rest _ _ heq =>
        have hrest : Legal (c :: rest) := heq ▸ hspace
        refine meets_ite (fun _ => meets_ite (fun _ => meets_none) fun _ => ?_) fun _ =>
          meets_ite (fun _ => ?_) fun _ => meets_none
        · exact meets_ite (fun _ => ih hrest.tail) fun _ => meets_none
        · exact (meets_takeModelName hrest).bind fun _ hrest => ih hrest
      · exact meets_none

theorem meets_skipMixed {fuel : Nat} {hasNames : Bool} (h : Legal cs) :
    Meets (skipMixed fuel hasNames cs) Legal := by
  induction fuel generalizing hasNames cs with
  | zero => exact meets_none
  | succ fuel ih =>
    have hspace := h.skipSpace
    unfold skipMixed
    split
    · next heq => exact meets_some (heq ▸ hspace).tail.tail
    · next heq => exact meets_ite (fun _ => meets_none) fun _ => meets_checkEnd (heq ▸ hspace).tail
    · next heq =>
      exact (meets_takeDeclQName (heq ▸ hspace).tail.skipSpace).bind fun _ hrest => ih hrest
    · exact meets_none

theorem meets_skipModel (h : Legal cs) : Meets (skipModel cs) Legal := by
  unfold skipModel
  split
  · split
    · next after hafter =>
      refine (meets_takeDeclName (meets_drop? h.tail.skipSpace after hafter)).bind fun _ hrest => ?_
      exact meets_ite (fun _ => meets_skipMixed hrest) fun _ => meets_none
    · exact meets_skipGroups h.tail
  · exact (meets_takeDeclName h).bind fun _ hrest =>
      meets_ite (fun _ => meets_some hrest) fun _ => meets_none

theorem meets_elementDecl (h : Legal cs) : Meets (elementDecl cs) Legal :=
  (meets_needSpace h).bind fun _ hrest => (meets_takeDeclQName hrest).bind fun _ hrest =>
    (meets_needSpace hrest).bind fun _ hrest => (meets_skipModel hrest).bind fun _ hrest =>
      meets_closeDecl hrest

theorem meets_notationDecl (h : Legal cs) : Meets (notationDecl cs) Legal := by
  refine (meets_needSpace h).bind fun _ hrest => (meets_takeDeclName hrest).bind fun _ hrest =>
    (meets_needSpace hrest).bind fun _ hrest => (meets_takeDeclName hrest).bind
      fun ⟨keyword, rest⟩ hrest => ?_
  dsimp only
  split
  · next after hafter => exact meets_closeDecl (meets_takeExternalId hrest after hafter)
  · refine meets_ite (fun _ => (meets_needSpace hrest).bind fun _ hrest => ?_) fun _ => meets_none
    exact (meets_takeLiteral hrest).bind fun _ hparts =>
      meets_ite (fun _ => meets_closeDecl hparts.2) fun _ => meets_none

theorem meets_subset {fuel : Nat} (hd : d.IsLegal) (h : Legal cs) :
    Meets (subset fuel d cs) LegalState := by
  induction fuel generalizing d cs with
  | zero => exact meets_none
  | succ fuel ih =>
    have hspace := h.skipSpace
    unfold subset
    split
    · next heq => exact meets_some ⟨hd, (heq ▸ hspace).tail⟩
    · next heq =>
      exact (meets_takeName (heq ▸ hspace).tail).bind fun _ hparts =>
        (meets_drop? hparts.2).bind fun _ hrest => ih ⟨hd.entities, hd.values⟩ hrest
    · next heq =>
      exact (meets_skipComment (heq ▸ hspace).tail.tail.tail.tail).bind fun _ hrest => ih hd hrest
    · next heq =>
      exact (meets_skipInstruction (heq ▸ hspace).tail.tail).bind fun _ hrest => ih hd hrest
    · next heq =>
      have hrest := (heq ▸ hspace).tail.tail
      split
      · next after hafter =>
        exact (meets_entityDecl hd (meets_drop? hrest after hafter)).bind fun _ hstate =>
          ih hstate.1 hstate.2
      · next after hafter _ =>
        exact (meets_attributeListDecl hd (meets_drop? hrest after hafter)).bind fun _ hstate =>
          ih hstate.1 hstate.2
      · next after hafter _ _ =>
        exact (meets_elementDecl (meets_drop? hrest after hafter)).bind fun _ hrest => ih hd hrest
      · next after hafter _ _ _ =>
        exact (meets_notationDecl (meets_drop? hrest after hafter)).bind fun _ hrest => ih hd hrest
      · exact meets_none
    · exact meets_none

theorem isLegal_empty (standalone isPartial : Bool) :
    ({ standalone, isPartial } : Doctype).IsLegal :=
  ⟨List.forall_mem_nil _, List.forall_mem_nil _⟩

/-- The declarations between brackets, if there are any, and the end of the document type. -/
def takeSubset (d : Doctype) (cs : Chars) : Option (Doctype × Chars) :=
  match skipSpace cs with
  | '>' :: rest => some (d, rest)
  | '[' :: rest => do
    let (d, rest) ← subset (rest.length + 1) d rest
    return (d, ← closeDecl rest)
  | _ => none

theorem meets_takeSubset {d : Doctype} (hd : d.IsLegal) (h : Legal cs) :
    Meets (takeSubset d cs) LegalState := by
  have hspace := h.skipSpace
  unfold takeSubset
  split
  · next heq => exact meets_some ⟨hd, (heq ▸ hspace).tail⟩
  · next heq =>
    exact (meets_subset hd (heq ▸ hspace).tail).bind fun _ hstate =>
      (meets_closeDecl hstate.2).bind fun _ hrest => meets_some ⟨hstate.1, hrest⟩
  · exact meets_none

theorem meets_takeDoctype {standalone : Bool} (h : Legal cs) :
    Meets (takeDoctype standalone cs) LegalState := by
  refine (meets_needSpace h).bind fun _ hrest => (meets_takeDeclQName hrest).bind
    fun ⟨_, rest⟩ hrest => ?_
  have hrest : Legal rest := hrest
  dsimp only
  split
  · exact (meets_needSpace hrest).bind fun _ hrest => (meets_takeDeclName hrest).bind
      fun _ hrest => (meets_takeExternalId hrest).bind fun _ hrest =>
        meets_takeSubset (isLegal_empty standalone true) hrest
  · exact (meets_needSpace hrest).bind fun _ hrest => (meets_takeDeclName hrest).bind
      fun _ hrest => (meets_takeExternalId hrest).bind fun _ hrest =>
        meets_takeSubset (isLegal_empty standalone true) hrest
  · exact meets_takeSubset (isLegal_empty standalone false) hrest

end PascalWorkspace.Xml
