import PascalWorkspace.Proofs.Except
import PascalWorkspace.Proofs.Xml.Doctype
import PascalWorkspace.Xml.Document

/-! The values of attributes in a document consist of characters that a document may hold, however
they came about. -/
namespace PascalWorkspace.Xml

variable {cs ds : Chars} {d : Doctype}

/-! ### Elements -/

/-- All values of attributes, in an element and below it, are legal. -/
inductive Element.IsLegal : Element → Prop where
  | mk {e : Element} (attributes : ∀ a ∈ e.attributes, Legal a.2.toList)
      (children : ∀ child ∈ e.children, Element.IsLegal child) : e.IsLegal

/-- The attributes of a tag with their values. -/
def LegalValues {ν : Type} (attributes : List (ν × Chars)) : Prop := ∀ a ∈ attributes, Legal a.2

theorem meets_takeAttributes {fuel : Nat} {reversed : List (QName × Chars)}
    (hreversed : LegalValues reversed) (h : Legal cs) :
    Meets (takeAttributes fuel reversed cs) fun r => LegalValues r.1 ∧ Legal r.2.2 := by
  induction fuel generalizing reversed cs with
  | zero => exact meets_none
  | succ fuel ih =>
    have hspace := h.skipSpace
    have hwritten : LegalValues reversed.reverse := fun a ha => hreversed a (List.mem_reverse.1 ha)
    unfold takeAttributes
    split
    · next heq => exact meets_some ⟨hwritten, (heq ▸ hspace).tail⟩
    · next heq => exact meets_some ⟨hwritten, (heq ▸ hspace).tail.tail⟩
    · exact (meets_needSpace h).bind fun _ hrest => (meets_takeQName hrest).bind fun _ hrest =>
        (meets_drop? (Legal.skipSpace hrest)).bind fun _ hrest =>
          (meets_takeQuoted hrest.skipSpace).bind fun _ hparts =>
            ih (List.forall_mem_cons.2 ⟨hparts.1, hreversed⟩) hparts.2

theorem meets_takeStartTag (h : Legal cs) :
    Meets (takeStartTag cs) fun r => LegalValues r.1.attributes ∧ Legal r.2 :=
  (meets_takeQName h).bind fun _ hrest =>
    (meets_takeAttributes (List.forall_mem_nil _) hrest).bind fun _ htag => meets_some htag

theorem meets_attributesOf (hd : d.IsLegal) {tag : StartTag} (htag : LegalValues tag.attributes) :
    Meets (attributesOf d tag) LegalValues := by
  refine (meets_mapM (R := fun a : QName × Chars => Legal a.2) fun a ha => ?_).bind
    fun written hwritten => ?_
  · exact (meets_attributeValue hd _ (htag a ha)).bind fun _ hvalue => meets_some hvalue
  · refine meets_ite (fun _ => meets_some ?_) fun _ => meets_none
    refine List.forall_mem_append.2 ⟨hwritten, fun a ha => ?_⟩
    obtain ⟨rule, hrule, hvalue⟩ := List.mem_filterMap.1 ha
    split at hvalue
    · cases hvalue
    · obtain ⟨value, hgiven, rfl⟩ := Option.map_eq_some_iff.1 hvalue
      exact hd.values rule (List.mem_filter.1 hrule).1 value hgiven

/-- An open element has legal values, and its finished children have. -/
structure Frame.IsLegal (f : Frame) : Prop where
  attributes : LegalValues f.attributes
  children : ∀ child ∈ f.reversed, child.IsLegal

theorem Frame.IsLegal.toElement {f : Frame} (hf : f.IsLegal) : f.toElement.IsLegal := by
  refine .mk (fun a ha => ?_) fun child hchild => hf.children child (List.mem_reverse.1 hchild)
  obtain ⟨written, hwritten, rfl⟩ := List.mem_map.1 ha
  have htext : (String.ofList written.2).toList = written.2 := String.toList_ofList
  dsimp only
  rw [htext]
  exact hf.attributes written hwritten

theorem meets_openFrame (hd : d.IsLegal) {scope : Bindings} {tag : StartTag}
    (htag : LegalValues tag.attributes) : Meets (openFrame d scope tag) Frame.IsLegal := by
  refine (meets_attributesOf hd htag).bind fun attributes hattributes => (meets_any _).bind
    fun scope _ => ?_
  refine (meets_mapM (R := fun a : Chars × Chars => Legal a.2) fun a ha => ?_).bind
    fun expanded hexpanded => ?_
  · have hvalue := hattributes a (List.mem_filter.1 ha).1
    exact (meets_any _).bind fun _ _ => meets_some hvalue
  · exact meets_ite (fun _ => (meets_any _).bind fun _ _ =>
      meets_some ⟨hexpanded, List.forall_mem_nil _⟩) fun _ => meets_none

/-- The open elements. -/
def LegalStack (stack : List Frame) : Prop := ∀ f ∈ stack, f.IsLegal

theorem LegalStack.addChild {stack : List Frame} (h : LegalStack stack) {e : Element}
    (he : e.IsLegal) : LegalStack (addChild e stack) := by
  cases stack with
  | nil => exact List.forall_mem_nil _
  | cons f outer =>
    obtain ⟨hf, houter⟩ := List.forall_mem_cons.1 h
    exact List.forall_mem_cons.2 ⟨⟨hf.attributes, List.forall_mem_cons.2 ⟨he, hf.children⟩⟩, houter⟩

theorem meets_content (hd : d.IsLegal) {floor fuel : Nat} {inEntity : Bool} {opened : List Chars}
    {stack : List Frame} (hstack : LegalStack stack) (h : Legal cs) :
    Meets (content d floor inEntity fuel opened stack cs) fun r => LegalStack r.1 ∧ Legal r.2 := by
  induction fuel generalizing floor inEntity opened stack cs with
  | zero =>
    cases cs with
    | nil => exact meets_ite (fun _ => meets_some ⟨hstack, legal_nil⟩) fun _ => meets_none
    | cons c rest => exact meets_none
  | succ fuel ih =>
    unfold content
    split
    · exact meets_ite (fun _ => meets_some ⟨hstack, legal_nil⟩) fun _ => meets_none
    · exact meets_none
    · next rest heq =>
      obtain rfl := Nat.succ.inj heq
      -- An end tag: the innermost element becomes a child of the one around it.
      refine meets_ite (fun _ => meets_none) fun _ => ?_
      split
      · obtain ⟨hf, houter⟩ := List.forall_mem_cons.1 hstack
        refine (meets_drop? h.tail.tail).bind fun _ hrest =>
          (meets_drop? hrest.skipSpace).bind fun rest hrest => ?_
        have hclosed := LegalStack.addChild houter hf.toElement
        exact meets_ite (fun _ => meets_some ⟨hclosed, hrest⟩) fun _ => ih hclosed hrest
      · exact meets_none
    · next rest heq =>
      obtain rfl := Nat.succ.inj heq
      exact (meets_skipComment h.tail.tail.tail.tail).bind fun _ hrest => ih hstack hrest
    · next rest _ heq =>
      obtain rfl := Nat.succ.inj heq
      exact (meets_drop? h.tail.tail).bind fun _ hrest => (meets_splitAt? hrest).bind
        fun _ hparts => ih hstack hparts.2
    · next rest heq =>
      obtain rfl := Nat.succ.inj heq
      exact (meets_skipInstruction h.tail.tail).bind fun _ hrest => ih hstack hrest
    · next rest _ _ _ _ heq =>
      obtain rfl := Nat.succ.inj heq
      -- A start tag: its attributes are legal, and no child is there yet.
      refine (meets_takeStartTag h.tail).bind fun ⟨tag, rest⟩ ⟨htag, hrest⟩ =>
        (meets_openFrame hd htag).bind fun frame hframe => ih ?_ hrest
      split
      · exact hstack.addChild hframe.toElement
      · exact List.forall_mem_cons.2 ⟨hframe, hstack⟩
    · next rest heq =>
      obtain rfl := Nat.succ.inj heq
      refine (meets_takeReference h.tail).bind fun ⟨reference, rest⟩ ⟨_, hrest⟩ => ?_
      cases reference with
      | char c => exact ih hstack hrest
      | entity name =>
        -- The text of the entity is read as content, and then what follows the reference.
        refine meets_ite (fun _ => ih hstack hrest) fun _ => ?_
        split
        · next text htext =>
          refine meets_ite (fun _ => meets_none) fun _ => ?_
          exact (ih hstack (hd.entity htext)).bind fun _ hinner => ih hinner.1 hrest
        · exact meets_none
    · exact meets_none
    · next rest _ _ _ _ _ _ _ heq =>
      obtain rfl := Nat.succ.inj heq
      exact ih hstack h.tail

/-! ### Documents -/

theorem meets_skipMisc {fuel : Nat} (h : Legal cs) : Meets (skipMisc fuel cs) Legal := by
  induction fuel generalizing cs with
  | zero => exact meets_none
  | succ fuel ih =>
    have hspace := h.skipSpace
    unfold skipMisc
    split
    · next heq =>
      exact (meets_skipComment (heq ▸ hspace).tail.tail.tail.tail).bind fun _ hrest => ih hrest
    · next heq =>
      exact (meets_skipInstruction (heq ▸ hspace).tail.tail).bind fun _ hrest => ih hrest
    · exact meets_some hspace

theorem meets_takeProlog {standalone : Bool} (h : Legal cs) :
    Meets (takeProlog standalone cs) LegalState := by
  refine (meets_skipMisc h).bind fun cs h => ?_
  split
  · next after hafter =>
    exact (meets_takeDoctype (meets_drop? h after hafter)).bind fun _ hstate =>
      (meets_skipMisc hstate.2).bind fun _ hrest => meets_some ⟨hstate.1, hrest⟩
  · exact meets_some ⟨isLegal_empty standalone false, h⟩

theorem meets_takeRoot (hd : d.IsLegal) (h : Legal cs) :
    Meets (takeRoot d cs) fun r => r.1.IsLegal ∧ Legal r.2 := by
  refine (meets_drop? h).bind fun _ hrest => (meets_takeStartTag hrest).bind
    fun ⟨tag, rest⟩ ⟨htag, hrest⟩ => (meets_openFrame hd htag).bind fun frame hframe => ?_
  refine meets_ite (fun _ => meets_some ⟨hframe.toElement, hrest⟩) fun _ => ?_
  have hdocument : documentFrame.IsLegal := ⟨List.forall_mem_nil _, List.forall_mem_nil _⟩
  have hstack : LegalStack [frame, documentFrame] :=
    List.forall_mem_cons.2 ⟨hframe, List.forall_mem_singleton.2 hdocument⟩
  refine (meets_content hd hstack hrest).bind fun ⟨stack, rest⟩ ⟨hstack, hrest⟩ => ?_
  have hstack : LegalStack stack := hstack
  dsimp only
  split
  · have hbottom := hstack _ List.mem_cons_self
    have hhead : Meets _ Element.IsLegal := fun root hroot =>
      hbottom.children root (List.mem_of_head? hroot)
    exact hhead.bind fun _ hroot => meets_some ⟨hroot, hrest⟩
  · exact meets_none

theorem meets_parseChars {standalone : Bool} (h : Legal cs) :
    Meets (parseChars standalone cs) Element.IsLegal := by
  refine (meets_takeProlog h).bind fun _ hstate => (meets_takeRoot hstate.1 hstate.2).bind
    fun ⟨root, rest⟩ hroot => (meets_any _).bind fun rest _ => ?_
  split
  · exact meets_some hroot.1
  · exact meets_none

theorem legal_of_checkChars (hok : checkChars cs = .ok ds) : Legal ds := by
  unfold checkChars at hok
  split at hok
  · next hall =>
    obtain rfl := Except.ok.inj hok
    exact List.all_eq_true.1 hall
  · cases hok

theorem legal_of_readSource {bytes : List UInt8} {declaration : Declaration}
    (hok : readSource bytes = .ok (declaration, cs)) : Legal cs := by
  have hchecked {rest : Chars} {found : Declaration}
      (hok : (do return (found, ← checkChars rest)) = Except.ok (declaration, cs)) : Legal cs := by
    obtain ⟨checked, hchecked, hok⟩ := bind_eq_ok_iff.1 hok
    obtain ⟨-, rfl⟩ := Prod.mk.inj (Except.ok.inj hok)
    exact legal_of_checkChars hchecked
  have hbehind {text : Chars} {found : Declaration} (hok : (do
      let behind ← declarationOf text
      return (found, ← checkChars behind.2)) = Except.ok (declaration, cs)) : Legal cs := by
    obtain ⟨behind, -, hok⟩ := bind_eq_ok_iff.1 hok
    exact hchecked hok
  unfold readSource at hok
  split at hok
  · obtain ⟨⟨found, rest⟩, -, hok⟩ := bind_eq_ok_iff.1 hok
    dsimp only at hok
    split at hok
    · obtain ⟨_, -, hok⟩ := bind_eq_ok_iff.1 hok
      split at hok
      · exact hchecked hok
      · cases hok
    · obtain ⟨_, -, hok⟩ := bind_eq_ok_iff.1 hok
      split at hok
      · exact hchecked hok
      · cases hok
  · obtain ⟨⟨found, _⟩, -, hok⟩ := bind_eq_ok_iff.1 hok
    dsimp only at hok
    split at hok
    · obtain ⟨_, -, hok⟩ := bind_eq_ok_iff.1 hok
      exact hbehind hok
    · obtain ⟨_, -, hok⟩ := bind_eq_ok_iff.1 hok
      exact hbehind hok

/-- The values of all attributes in a document consist of characters that a document may hold. -/
theorem isLegal_of_parse {bytes : List UInt8} {root : Element} (hok : parse bytes = .ok root) :
    root.IsLegal := by
  obtain ⟨⟨declaration, cs⟩, hsource, hok⟩ := bind_eq_ok_iff.1 hok
  dsimp only at hok
  split at hok
  · next found hfound =>
    obtain rfl := Except.ok.inj hok
    exact meets_parseChars (legal_of_readSource hsource) found hfound
  · cases hok

end PascalWorkspace.Xml
