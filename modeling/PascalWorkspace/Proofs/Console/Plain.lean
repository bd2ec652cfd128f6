import Mathlib.Data.List.Chain
import PascalWorkspace.Console.Markup

/-! Text without marks is shown as it is: no tag begins in it, no bracket in it is kept by a backslash,
and it names no picture and holds no character that a terminal acts upon. Lines of that kind may be
put in a style, unless what they show together completes a tag. -/
namespace PascalWorkspace.Console

variable {cs xs ys rest plain : List Char} {b c : Char} {n m : Nat}

/-! ### Pictures -/

namespace Emoji

/-- What follows a colon up to the next colon or blank. -/
def codeOf (rest : List Char) : List Char := rest.takeWhile fun c => c ≠ ':' && !Text.isBlank c

theorem replace_colon_of_known {behind : List Char}
    (h : rest.drop (codeOf rest).length = ':' :: behind) : replace (n + 1) (':' :: rest) =
      (picture? (codeOf rest)).getD (':' :: (codeOf rest ++ [':'])) ++ replace n behind := by
  rw [replace.eq_3]
  split
  · next found heq =>
    obtain rfl : behind = found := (List.cons.inj (h.symm.trans heq)).2
    rfl
  · next hnone => exact absurd h (hnone behind)

theorem replace_colon_of_open (h : ∀ behind, rest.drop (codeOf rest).length ≠ ':' :: behind) :
    replace (n + 1) (':' :: rest) = ':' :: replace n rest := by
  rw [replace.eq_3]
  split
  · next behind heq => exact absurd heq (h behind)
  · rfl

theorem length_le_of_drop {behind : List Char} {k : Nat} (h : rest.drop k = b :: behind) :
    behind.length < rest.length := by
  have hlength := congrArg List.length h
  rw [List.length_drop, List.length_cons] at hlength
  omega

/-- Enough rounds are enough. -/
theorem replace_eq_of_le (hn : cs.length ≤ n) (hm : cs.length ≤ m) :
    replace n cs = replace m cs := by
  induction n generalizing m cs with
  | zero =>
    obtain rfl := List.length_eq_zero_iff.1 (Nat.le_zero.1 hn)
    cases m <;> rfl
  | succ n ih =>
    cases cs with
    | nil => cases m <;> rfl
    | cons c rest =>
      rw [List.length_cons] at hn hm
      obtain ⟨m, rfl⟩ : ∃ k, m = k + 1 := ⟨m - 1, by omega⟩
      by_cases hc : c = ':'
      · subst hc
        by_cases hcode : ∃ behind, rest.drop (codeOf rest).length = ':' :: behind
        · obtain ⟨behind, hbehind⟩ := hcode
          have hlength := length_le_of_drop hbehind
          rw [replace_colon_of_known hbehind, replace_colon_of_known hbehind,
            ih (by omega) (show _ ≤ m by omega)]
        · have hopen := not_exists.1 hcode
          rw [replace_colon_of_open hopen, replace_colon_of_open hopen,
            ih (by omega) (show _ ≤ m by omega)]
      · rw [replace.eq_4 _ _ _ hc, replace.eq_4 _ _ _ hc, ih (by omega) (show _ ≤ m by omega)]

theorem codeOf_append_blank (hb : Text.isBlank b = true) :
    codeOf (rest ++ b :: ys) = codeOf rest := by
  induction rest with
  | nil => simp [codeOf, hb]
  | cons c rest ih =>
    unfold codeOf at ih ⊢
    rw [List.cons_append, List.takeWhile_cons, List.takeWhile_cons, ih]

theorem length_codeOf_le : (codeOf rest).length ≤ rest.length :=
  (List.takeWhile_prefix _).length_le

end Emoji

open Emoji

theorem withEmoji_cons (hc : c ≠ ':') : withEmoji (c :: rest) = c :: withEmoji rest :=
  replace.eq_4 _ _ _ hc

theorem withEmoji_colon_of_known {behind : List Char}
    (h : rest.drop (codeOf rest).length = ':' :: behind) : withEmoji (':' :: rest) =
      (picture? (codeOf rest)).getD (':' :: (codeOf rest ++ [':'])) ++ withEmoji behind := by
  have hlength := length_le_of_drop h
  rw [withEmoji, List.length_cons, replace_colon_of_known h, withEmoji,
    replace_eq_of_le (by omega) le_rfl]

theorem withEmoji_colon_of_open (h : ∀ behind, rest.drop (codeOf rest).length ≠ ':' :: behind) :
    withEmoji (':' :: rest) = ':' :: withEmoji rest := by
  rw [withEmoji, List.length_cons, replace_colon_of_open h, withEmoji]

/-- No picture is named across a blank. -/
theorem withEmoji_append_blank (hb : Text.isBlank b = true) :
    withEmoji (xs ++ b :: ys) = withEmoji xs ++ b :: withEmoji ys := by
  have hcolon : b ≠ ':' := by
    rintro rfl
    exact absurd hb (by decide)
  induction hlength : xs.length using Nat.strong_induction_on generalizing xs with
  | _ k ih =>
    cases xs with
    | nil => exact withEmoji_cons hcolon
    | cons c rest =>
      rw [List.length_cons] at hlength
      by_cases hc : c = ':'
      · subst hc
        have hdrop : (rest ++ b :: ys).drop (codeOf (rest ++ b :: ys)).length =
            rest.drop (codeOf rest).length ++ b :: ys := by
          rw [codeOf_append_blank hb, List.drop_append_of_le_length length_codeOf_le]
        by_cases hcode : ∃ behind, rest.drop (codeOf rest).length = ':' :: behind
        · obtain ⟨behind, hbehind⟩ := hcode
          have hshorter := length_le_of_drop hbehind
          rw [hbehind, List.cons_append] at hdrop
          rw [List.cons_append, withEmoji_colon_of_known hdrop, withEmoji_colon_of_known hbehind,
            codeOf_append_blank hb, ih _ (by omega) rfl, List.append_assoc]
        · have hopen : ∀ behind, rest.drop (codeOf rest).length ++ b :: ys ≠ ':' :: behind := by
            intro behind heq
            cases hrest : rest.drop (codeOf rest).length with
            | nil =>
              rw [hrest] at heq
              exact hcolon (List.cons.inj heq).1
            | cons d more =>
              rw [hrest] at heq
              exact hcode ⟨more, by rw [hrest, (List.cons.inj heq).1]⟩
          rw [List.cons_append, withEmoji_colon_of_open (hdrop ▸ hopen),
            withEmoji_colon_of_open (not_exists.1 hcode), ih _ (by omega) rfl, List.cons_append]
      · rw [List.cons_append, withEmoji_cons hc, withEmoji_cons hc, ih _ (by omega) rfl,
          List.cons_append]

/-! ### Tags -/

namespace Markup

/-- No bracket has a backslash in front. -/
def Unescaped (cs : List Char) : Prop := cs.IsChain fun a b => ¬ (a = '\\' ∧ b = '[')

instance : DecidablePred Unescaped := fun cs =>
  inferInstanceAs (Decidable (cs.IsChain fun a b => ¬ (a = '\\' ∧ b = '[')))

/-- No tag begins in a text that `rest` stands behind. -/
def Untagged : List Char → (rest : List Char) → Prop
  | [], _ => True
  | c :: cs, rest => (c = '[' → tagText? (cs ++ rest) = none) ∧ Untagged cs rest

instance decidableUntagged : (cs rest : List Char) → Decidable (Untagged cs rest)
  | [], _ => isTrue trivial
  | _ :: cs, rest =>
    have := decidableUntagged cs rest
    inferInstanceAs (Decidable (_ ∧ _))

theorem untagged_append :
    Untagged (xs ++ ys) rest ↔ Untagged xs (ys ++ rest) ∧ Untagged ys rest := by
  induction xs with
  | nil => exact ⟨fun h => ⟨trivial, h⟩, And.right⟩
  | cons c xs ih => rw [List.cons_append, Untagged, Untagged, ih, List.append_assoc, and_assoc]

theorem untagged_of_notMem (h : '[' ∉ cs) : Untagged cs rest := by
  induction cs with
  | nil => trivial
  | cons c cs ih =>
    obtain ⟨hc, hcs⟩ := not_or.1 (List.mem_cons.not.1 h)
    exact ⟨fun heq => absurd heq.symm hc, ih hcs⟩

/-- A tag ends with the first closing bracket. -/
theorem tagText?_append (hstart : startsTag c = true) (hcs : ']' ∉ cs ∧ '[' ∉ cs) :
    tagText? (c :: (cs ++ ']' :: rest)) = some (c :: cs, rest) := by
  have hinner : ∀ d ∈ cs, (d ≠ ']' && d ≠ '[') = true := fun d hd => by
    simp only [Bool.and_eq_true, decide_eq_true_eq]
    exact ⟨fun heq => hcs.1 (heq ▸ hd), fun heq => hcs.2 (heq ▸ hd)⟩
  have htake : (cs ++ ']' :: rest).takeWhile (fun d => d ≠ ']' && d ≠ '[') = cs := by
    rw [List.takeWhile_append_of_pos hinner, List.takeWhile_cons, if_neg (by decide),
      List.append_nil]
  rw [tagText?, hstart]
  dsimp only
  rw [htake, List.drop_left]
  rfl

theorem exists_of_tagText? {tag behind : List Char} (h : tagText? cs = some (tag, behind)) :
    ∃ c inner, startsTag c = true ∧ (']' ∉ inner ∧ '[' ∉ inner) ∧
      cs = c :: (inner ++ ']' :: behind) := by
  cases cs with
  | nil => cases h
  | cons c cs =>
    rw [tagText?] at h
    split at h
    · cases h
    · next hstart =>
      dsimp only at h
      split at h
      · next hbehind =>
        obtain ⟨-, rfl⟩ := Prod.mk.inj (Option.some.inj h)
        have hcut := List.prefix_iff_eq_append.1
          (List.takeWhile_prefix fun d => d ≠ ']' && d ≠ '[' : _ <+: cs)
        rw [hbehind] at hcut
        have hinner := List.all_eq_true.1
          (List.all_takeWhile (p := fun d : Char => d ≠ ']' && d ≠ '[') (l := cs))
        refine ⟨c, _, by simpa using hstart, ⟨fun hmem => ?_, fun hmem => ?_⟩,
          congrArg (c :: ·) hcut.symm⟩
        · simpa using hinner _ hmem
        · simpa using hinner _ hmem
      · cases h

theorem length_lt_of_tagText? {tag behind : List Char} (h : tagText? cs = some (tag, behind)) :
    behind.length < cs.length := by
  obtain ⟨c, inner, -, -, rfl⟩ := exists_of_tagText? h
  simp
  omega

/-- What other text does not complete to a tag, a bracket does not either. -/
theorem tagText?_bracket (h : tagText? (xs ++ rest) = none) :
    tagText? (xs ++ '[' :: ys) = none := by
  by_contra hsome
  obtain ⟨⟨tag, behind⟩, htag⟩ := Option.ne_none_iff_exists'.1 hsome
  obtain ⟨c, inner, hc, hinner, heq⟩ := exists_of_tagText? htag
  obtain ⟨more, hxs, hmore⟩ | ⟨more, rfl, hmore⟩ := List.append_eq_append_iff.1
    (heq.trans List.cons_append.symm)
  · -- The tag would hold the bracket.
    obtain rfl | ⟨d, more⟩ := more
    · simp at hmore
    · obtain ⟨rfl, -⟩ := List.cons.inj hmore
      have hmem : '[' ∈ c :: inner := hxs ▸ List.mem_append_right xs List.mem_cons_self
      obtain rfl | hmem := List.mem_cons.1 hmem
      · exact absurd hc (by decide)
      · exact hinner.2 hmem
  · -- The tag would end before the bracket.
    obtain rfl | ⟨d, more⟩ := more
    · simp at hmore
    · obtain ⟨rfl, -⟩ := List.cons.inj hmore
      rw [List.cons_append, List.cons_append, List.append_assoc, List.cons_append,
        tagText?_append hc hinner] at h
      cases h

theorem Untagged.bracket (h : Untagged cs rest) : Untagged cs ('[' :: ys) := by
  induction cs with
  | nil => trivial
  | cons c cs ih => exact ⟨fun hc => tagText?_bracket (h.1 hc), ih h.2⟩

/-- Enough rounds are enough. -/
theorem pieces_eq_of_lt (hn : cs.length < n) (hm : cs.length < m) :
    pieces n plain cs = pieces m plain cs := by
  induction n generalizing m plain cs with
  | zero => exact absurd hn (Nat.not_lt_zero _)
  | succ n ih =>
    obtain ⟨m, rfl⟩ : ∃ k, m = k + 1 := ⟨m - 1, by omega⟩
    rw [pieces.eq_2, pieces.eq_2]
    cases hdrop : cs.drop (cs.takeWhile (· = '\\')).length with
    | nil => rfl
    | cons c rest =>
      have hshorter := Emoji.length_le_of_drop hdrop
      dsimp only
      cases htag : (if c = '[' then tagText? rest else none) with
      | none => exact ih (by omega) (by omega)
      | some found =>
        obtain ⟨tag, behind⟩ := found
        have hbehind : tagText? rest = some (tag, behind) := by
          split at htag
          · exact htag
          · cases htag
        have hless := length_lt_of_tagText? hbehind
        dsimp only
        rw [ih (by omega) (show _ < m by omega)]

/-- A character that is no part of a mark is passed over. -/
theorem pieces_cons (hbracket : c = '[' → tagText? cs = none)
    (hbackslash : c = '\\' → (cs.drop (cs.takeWhile (· = '\\')).length).head? ≠ some '[')
    (hn : (c :: cs).length < n) (hm : cs.length < m) :
    pieces n plain (c :: cs) = pieces m (c :: plain) cs := by
  rw [List.length_cons] at hn
  obtain ⟨n, rfl⟩ : ∃ k, n = k + 1 := ⟨n - 1, by omega⟩
  by_cases hc : c = '\\'
  · -- The backslash is the first of a row, behind which there is no bracket.
    subst hc
    obtain ⟨m, rfl⟩ : ∃ k, m = k + 1 := ⟨m - 1, by omega⟩
    have hbracket := hbackslash rfl
    rw [pieces.eq_2, pieces.eq_2, List.takeWhile_cons, if_pos (by decide), List.length_cons,
      List.drop_succ_cons]
    cases hdrop : cs.drop (cs.takeWhile (· = '\\')).length with
    | nil => simp
    | cons d rest =>
      have hshorter := Emoji.length_le_of_drop hdrop
      have hd : d ≠ '[' := by simpa [hdrop] using hbracket
      rw [List.replicate_succ', List.append_assoc]
      dsimp only
      rw [if_neg hd]
      exact pieces_eq_of_lt (by omega) (by omega)
  · have htag : (if c = '[' then tagText? cs else none) = none := by
      split
      · next heq => exact hbracket heq
      · rfl
    rw [pieces.eq_2, List.takeWhile_cons, if_neg (by simpa using hc), List.length_nil,
      List.drop_zero]
    dsimp only
    rw [htag]
    exact pieces_eq_of_lt (by omega) hm

/-- A text ends without a backslash, or at the end of everything. -/
def EndsBefore (cs rest : List Char) : Prop := rest = [] ∨ cs.getLast? ≠ some '\\'

theorem EndsBefore.tail (h : EndsBefore (c :: cs) rest) : EndsBefore cs rest := by
  refine h.imp id fun hlast hd => hlast ?_
  cases cs with
  | nil => cases hd
  | cons => rwa [List.getLast?_cons_cons]

/-- No bracket follows a row of backslashes. -/
theorem head?_of_unescaped (h : Unescaped ('\\' :: cs)) (hend : EndsBefore ('\\' :: cs) rest) :
    ((cs ++ rest).drop ((cs ++ rest).takeWhile (· = '\\')).length).head? ≠ some '[' := by
  induction cs with
  | nil =>
    obtain rfl | hlast := hend
    · simp
    · exact absurd rfl hlast
  | cons c cs ih =>
    obtain ⟨hpass, hrest⟩ := List.isChain_cons_cons.1 h
    rw [List.cons_append]
    by_cases hc : c = '\\'
    · subst hc
      rw [List.takeWhile_cons, if_pos (by decide), List.length_cons, List.drop_succ_cons]
      exact ih hrest hend.tail
    · rw [List.takeWhile_cons, if_neg (by simpa using hc), List.length_nil, List.drop_zero,
        List.head?_cons]
      exact fun heq => hpass ⟨rfl, Option.some.inj heq⟩

/-- A text without tags is passed over. -/
theorem pieces_append (hun : Unescaped cs) (htags : Untagged cs rest) (hend : EndsBefore cs rest)
    (hn : (cs ++ rest).length < n) (hm : rest.length < m) :
    pieces n plain (cs ++ rest) = pieces m (cs.reverse ++ plain) rest := by
  induction cs generalizing n plain with
  | nil => exact pieces_eq_of_lt hn hm
  | cons c cs ih =>
    have hstep : pieces n plain (c :: (cs ++ rest)) =
        pieces ((cs ++ rest).length + 1) (c :: plain) (cs ++ rest) :=
      pieces_cons htags.1 (by rintro rfl; exact head?_of_unescaped hun hend) hn
        (Nat.lt_succ_self _)
    rw [List.cons_append, hstep, ih hun.tail htags.2 hend.tail (Nat.lt_succ_self _),
      List.reverse_cons, List.append_assoc]
    rfl

/-- A text without tags at the end is one piece with what came before. -/
theorem pieces_of_untagged (hun : Unescaped cs) (htags : Untagged cs []) (hn : cs.length < n) :
    pieces n plain cs = [.text (plain.reverse ++ cs)] := by
  have hall : pieces n plain (cs ++ []) = pieces 1 (cs.reverse ++ plain) [] :=
    pieces_append hun htags (.inl rfl) (by rwa [List.append_nil]) Nat.one_pos
  rw [List.append_nil] at hall
  rw [hall, pieces.eq_2]
  simp

theorem unescaped_of_notMem (h : '[' ∉ cs) : Unescaped cs := by
  induction cs with
  | nil => exact List.isChain_nil
  | cons c cs ih =>
    obtain ⟨hc, hcs⟩ := not_or.1 (List.mem_cons.not.1 h)
    cases cs with
    | nil => exact List.isChain_singleton c
    | cons d cs =>
      refine List.isChain_cons_cons.2 ⟨fun hkept => hcs ?_, ih hcs⟩
      exact hkept.2 ▸ List.mem_cons_self

theorem dropEscapes_of_unescaped (hun : Unescaped cs) : dropEscapes cs = cs := by
  induction cs with
  | nil => rfl
  | cons c cs ih =>
    rw [dropEscapes.eq_2, ih hun.tail]
    rintro rest rfl rfl
    exact (List.isChain_cons_cons.1 hun).1 ⟨rfl, rfl⟩

theorem pieces_tag {tag behind : List Char} (htag : tagText? cs = some (tag, behind))
    (hn : ('[' :: cs).length < n) (hm : behind.length < m) : pieces n plain ('[' :: cs) =
      .text plain.reverse :: .tag (parseTag tag) :: pieces m [] behind := by
  rw [List.length_cons] at hn
  obtain ⟨n, rfl⟩ : ∃ k, n = k + 1 := ⟨n - 1, by omega⟩
  have hshorter := length_lt_of_tagText? htag
  rw [pieces.eq_2, List.takeWhile_cons, if_neg (by decide), List.length_nil, List.drop_zero]
  dsimp only
  rw [if_pos rfl, htag]
  dsimp only
  rw [pieces_eq_of_lt (show _ < n by omega) hm]
  rfl

theorem assemble_text (opened : List Tag) (cs : List Char) (others : List Piece) :
    assemble opened (.text cs :: others) =
      (assemble opened others).map (withEmoji (dropEscapes cs) ++ ·) := by
  rw [assemble]
  cases assemble opened others <;> rfl

theorem assemble_tag {opened opened' : List Tag} {t : Tag} (h : applyTag opened t = .ok opened')
    (others : List Piece) : assemble opened (.tag t :: others) = assemble opened' others := by
  rw [assemble, h]
  rfl

/-- A style that a tag of its name begins and one with a slash ends. -/
structure IsStyle (style : List Char) : Prop where
  opening (rest : List Char) : tagText? (style ++ ']' :: rest) = some (style, rest)
  closing (rest : List Char) : tagText? ('/' :: (style ++ ']' :: rest)) = some ('/' :: style, rest)
  opened : applyTag [] (parseTag style) = .ok [parseTag style]
  closed : applyTag [parseTag style] (parseTag ('/' :: style)) = .ok []

/-- The colours that the program uses. -/
theorem isStyle_of_mem {name : String} (h : name ∈ ["red", "yellow", "green"]) :
    IsStyle name.toList := by
  simp only [List.mem_cons, List.not_mem_nil, or_false] at h
  obtain rfl | rfl | rfl := h <;>
    exact ⟨fun _ => tagText?_append (by decide) (by decide),
      fun _ => tagText?_append (by decide) (by decide), by decide +kernel, by decide +kernel⟩

end Markup

open Markup

/-! ### Texts without marks -/

/-- A text that is shown as it is wherever no tag begins in it. -/
structure Plain (cs : List Char) : Prop where
  unescaped : Unescaped cs
  pictures : withEmoji cs = cs
  controls : ∀ c ∈ cs, isControl c = false ∧ c ≠ '\t'

/-- A text that is shown as it is. -/
structure Unmarked (cs : List Char) : Prop extends Plain cs where
  untagged : Untagged cs []

theorem plain_iff : Plain cs ↔ Unescaped cs ∧ withEmoji cs = cs ∧
    cs.all (fun c => !isControl c && c != '\t') = true := by
  simp only [List.all_eq_true, Bool.and_eq_true, Bool.not_eq_true', bne_iff_ne]
  exact ⟨fun h => ⟨h.unescaped, h.pictures, h.controls⟩, fun ⟨h, h', h''⟩ => ⟨h, h', h''⟩⟩

instance : DecidablePred Plain := fun _ => decidable_of_iff _ plain_iff.symm

theorem unmarked_iff : Unmarked cs ↔ Plain cs ∧ Untagged cs [] :=
  ⟨fun h => ⟨h.toPlain, h.untagged⟩, fun ⟨h, h'⟩ => ⟨h, h'⟩⟩

instance : DecidablePred Unmarked := fun _ => decidable_of_iff _ unmarked_iff.symm

theorem plain_nil : Plain [] := ⟨List.isChain_nil, rfl, nofun⟩

/-- A blank or a line feed between two plain texts makes no mark. -/
theorem Plain.append (hx : Plain xs) (hy : Plain ys) (hb : b = ' ' ∨ b = '\n') :
    Plain (xs ++ b :: ys) := by
  have hblank : Text.isBlank b = true := by obtain rfl | rfl := hb <;> decide
  have hcontrol : isControl b = false ∧ b ≠ '\t' := by obtain rfl | rfl := hb <;> decide
  have hbracket : b ≠ '[' := by obtain rfl | rfl := hb <;> decide
  have hbackslash : b ≠ '\\' := by obtain rfl | rfl := hb <;> decide
  have hrest : Unescaped ([b] ++ ys) := by
    refine (List.isChain_singleton b).append hy.unescaped fun a ha d _ hkept => hbackslash ?_
    exact (Option.some.inj ha).trans hkept.1
  refine ⟨hx.unescaped.append hrest fun a _ d hd hkept => hbracket ?_, ?_, fun c hc => ?_⟩
  · exact (Option.some.inj hd).trans hkept.2
  · rw [withEmoji_append_blank hblank, hx.pictures, hy.pictures]
  · obtain hc | hc := List.mem_append.1 hc
    · exact hx.controls c hc
    · obtain rfl | hc := List.mem_cons.1 hc
      · exact hcontrol
      · exact hy.controls c hc

theorem withEmoji_of_notMem (h : ':' ∉ cs) : withEmoji cs = cs := by
  induction cs with
  | nil => rfl
  | cons c cs ih =>
    obtain ⟨hc, hcs⟩ := not_or.1 (List.mem_cons.not.1 h)
    rw [withEmoji_cons (Ne.symm hc), ih hcs]

/-- A text without brackets and colons holds no marks. -/
theorem plain_of_notMem (hbracket : '[' ∉ cs) (hcolon : ':' ∉ cs)
    (hcontrols : ∀ c ∈ cs, isControl c = false ∧ c ≠ '\t') : Plain cs :=
  ⟨unescaped_of_notMem hbracket, withEmoji_of_notMem hcolon, hcontrols⟩

theorem Plain.shown (h : Plain cs) : withEmoji (dropEscapes cs) = cs := by
  rw [dropEscapes_of_unescaped h.unescaped, h.pictures]

theorem Plain.filter (h : Plain cs) : (cs.filter fun c => !isControl c) = cs :=
  List.filter_eq_self.2 fun c hc => by simp [(h.controls c hc).1]

/-- Plain lines may stand one below another. -/
theorem plain_intercalate {texts : List (List Char)} (h : ∀ cs ∈ texts, Plain cs) :
    Plain (['\n'].intercalate texts) := by
  induction texts with
  | nil => exact plain_nil
  | cons cs texts ih =>
    obtain ⟨hcs, hrest⟩ := List.forall_mem_cons.1 h
    cases texts with
    | nil => rwa [List.intercalate_singleton]
    | cons next texts =>
      rw [List.intercalate_cons_cons, List.append_assoc]
      exact hcs.append (ih hrest) (.inr rfl)

/-! ### Lines of which some are in a style -/

/-- A line of a marked text, and whether it is in a style. -/
abbrev Line := List Char × Bool

def markLine (style : List Char) (line : Line) : List Char :=
  if line.2 then '[' :: (style ++ ']' :: (line.1 ++ '[' :: '/' :: (style ++ [']']))) else line.1

/-- Lines one below another, each in its style. -/
def markedText (style : List Char) (lines : List Line) : List Char :=
  ['\n'].intercalate (lines.map (markLine style))

/-- What lines show. -/
def shownText (lines : List Line) : List Char := ['\n'].intercalate (lines.map (·.1))

/-- A plain line whose style can be ended behind it. -/
def Line.Plain (line : Line) : Prop :=
  Console.Plain line.1 ∧ (line.2 = true → line.1.getLast? ≠ some '\\')

variable {style : List Char} {line next : Line} {lines : List Line}

theorem plain_shownText (h : ∀ line ∈ lines, line.Plain) : Plain (shownText lines) :=
  plain_intercalate (List.forall_mem_map.2 fun line hline => (h line hline).1)

theorem markedText_cons : markedText style (line :: next :: lines) =
    markLine style line ++ '\n' :: markedText style (next :: lines) :=
  List.intercalate_cons_cons.trans (List.append_assoc _ _ _)

theorem shownText_cons :
    shownText (line :: next :: lines) = line.1 ++ '\n' :: shownText (next :: lines) :=
  List.intercalate_cons_cons.trans (List.append_assoc _ _ _)

/-- If what lines show completes no tag, then the lines with their styles complete none. -/
theorem tagText?_markedText (h : tagText? (xs ++ shownText lines) = none) :
    tagText? (xs ++ markedText style lines) = none := by
  induction lines generalizing xs with
  | nil => exact h
  | cons line lines ih =>
    obtain ⟨cs, styled⟩ := line
    cases styled with
    | true =>
      cases lines with
      | nil => exact tagText?_bracket h
      | cons next lines =>
        rw [markedText_cons]
        exact tagText?_bracket h
    | false =>
      cases lines with
      | nil => exact h
      | cons next lines =>
        rw [shownText_cons, List.append_cons, ← List.append_assoc] at h
        rw [markedText_cons, List.append_cons, ← List.append_assoc]
        exact ih h

theorem Markup.Untagged.marked (h : Untagged cs (shownText lines)) :
    Untagged cs (markedText style lines) := by
  induction cs with
  | nil => trivial
  | cons c cs ih => exact ⟨fun hc => tagText?_markedText (h.1 hc), ih h.2⟩

/-- Text that ends a line, or that stands at the beginning. -/
def Begun (cs : List Char) : Prop := ∀ next, Plain next → Plain (cs ++ next)

theorem begun_nil : Begun [] := fun _ h => h

theorem Plain.begun (h : Plain cs) : Begun (cs ++ ['\n']) := by
  intro next hnext
  rw [List.append_assoc]
  exact h.append hnext (.inr rfl)

theorem Begun.toPlain (h : Begun cs) : Plain cs := by
  have hall := h [] plain_nil
  rwa [List.append_nil] at hall

/-- A line in a style. -/
theorem assemble_styled (hstyle : IsStyle style) (hplain : Plain plain.reverse)
    (hcs : Plain cs) (htags : Untagged cs ys) (hend : cs.getLast? ≠ some '\\')
    (hn : (markLine style (cs, true) ++ rest).length < n) (hm : rest.length < m) :
    assemble [] (pieces n plain (markLine style (cs, true) ++ rest)) =
      (assemble [] (pieces m [] rest)).map (plain.reverse ++ cs ++ ·) := by
  have hmark : markLine style (cs, true) ++ rest =
      '[' :: (style ++ ']' :: (cs ++ '[' :: '/' :: (style ++ ']' :: rest))) := by
    simp [markLine]
  rw [hmark] at hn ⊢
  rw [pieces_tag (hstyle.opening _) hn (Nat.lt_succ_self _),
    pieces_append hcs.unescaped htags.bracket (.inr hend) (Nat.lt_succ_self _)
      (Nat.lt_succ_self _),
    pieces_tag (hstyle.closing _) (Nat.lt_succ_self _) hm, assemble_text,
    assemble_tag hstyle.opened, assemble_text, assemble_tag hstyle.closed, hplain.shown,
    List.append_nil, List.reverse_reverse, hcs.shown]
  cases assemble [] (pieces m [] rest) with
  | error fault => rfl
  | ok shown => exact congrArg Except.ok (List.append_assoc _ _ _).symm

/-- The last line, in a style or not. -/
theorem assemble_last (hstyle : IsStyle style) (hplain : Begun plain.reverse) (hline : line.Plain)
    (htags : Untagged line.1 []) (hn : (markLine style line).length < n) :
    assemble [] (pieces n plain (markLine style line)) = .ok (plain.reverse ++ line.1) := by
  obtain ⟨cs, styled⟩ := line
  obtain ⟨hcs, hend⟩ := hline
  cases styled with
  | false =>
    have hmark : markLine style (cs, false) = cs := rfl
    rw [hmark] at hn ⊢
    rw [pieces_of_untagged hcs.unescaped htags hn, assemble_text, (hplain cs hcs).shown]
    exact congrArg Except.ok (List.append_nil _)
  | true =>
    have hstyled : assemble [] (pieces n plain (markLine style (cs, true) ++ [])) =
        (assemble [] (pieces 1 [] [])).map (plain.reverse ++ cs ++ ·) :=
      assemble_styled hstyle hplain.toPlain hcs htags (hend rfl) (by rwa [List.append_nil])
        Nat.one_pos
    rw [List.append_nil] at hstyled
    rw [hstyled]
    exact congrArg Except.ok (List.append_nil _)

/-- A line without a style joins what has gathered before it, with the line feed. -/
theorem pieces_unstyled (hcs : Plain cs) (htags : Untagged (cs ++ '\n' :: shownText lines) [])
    (hn : (markLine style (cs, false) ++ '\n' :: markedText style lines).length < n)
    (hm : (markedText style lines).length < m) :
    pieces n plain (markLine style (cs, false) ++ '\n' :: markedText style lines) =
      pieces m ((cs ++ ['\n']).reverse ++ plain) (markedText style lines) := by
  have hmark : markLine style (cs, false) ++ '\n' :: markedText style lines =
      (cs ++ ['\n']) ++ markedText style lines := List.append_cons _ _ _
  have hline : Plain (cs ++ ['\n']) := hcs.append plain_nil (.inr rfl)
  have hlast : EndsBefore (cs ++ ['\n']) (markedText style lines) := .inr (by simp)
  have hhere : Untagged (cs ++ ['\n']) (shownText lines) := by
    rw [List.append_cons, untagged_append, List.append_nil] at htags
    exact htags.1
  rw [hmark] at hn ⊢
  exact pieces_append hline.unescaped hhere.marked hlast hn hm

/-- Lines are shown as they are, each in its style. -/
theorem assemble_lines (hstyle : IsStyle style) (hplain : Begun plain.reverse)
    (hlines : ∀ line ∈ lines, line.Plain) (htags : Untagged (shownText lines) [])
    (hn : (markedText style lines).length < n) :
    assemble [] (pieces n plain (markedText style lines)) =
      .ok (plain.reverse ++ shownText lines) := by
  -- Lines without a style gather in `plain` up to the next tag, so the induction is over any of it.
  induction lines generalizing n plain with
  | nil =>
    have hempty : markedText style [] = [] := rfl
    rw [hempty] at hn ⊢
    rw [pieces_of_untagged List.isChain_nil trivial hn, assemble_text, List.append_nil,
      hplain.toPlain.shown]
    rfl
  | cons line lines ih =>
    obtain ⟨cs, styled⟩ := line
    obtain ⟨⟨hcs, hend⟩, hrest⟩ := List.forall_mem_cons.1 hlines
    cases lines with
    | nil =>
      have hshown : shownText [(cs, styled)] = cs := List.intercalate_singleton
      have hmarked : markedText style [(cs, styled)] = markLine style (cs, styled) :=
        List.intercalate_singleton
      rw [hshown] at htags ⊢
      rw [hmarked] at hn ⊢
      exact assemble_last hstyle hplain ⟨hcs, hend⟩ htags hn
    | cons next lines =>
      rw [shownText_cons] at htags ⊢
      rw [markedText_cons] at hn ⊢
      have hnext : Untagged (shownText (next :: lines)) [] := (untagged_append.1 htags).2.2
      cases styled with
      | false =>
        have hbegun : Begun ((cs ++ ['\n']).reverse ++ plain).reverse := by
          rw [List.reverse_append, List.reverse_reverse, ← List.append_assoc]
          exact (hplain cs hcs).begun
        rw [pieces_unstyled hcs htags hn (Nat.lt_succ_self _),
          ih hbegun hrest hnext (Nat.lt_succ_self _)]
        simp
      | true =>
        let others := markedText style (next :: lines)
        have hnew : pieces (('\n' :: others).length + 1) [] ('\n' :: others) =
            pieces (others.length + 1) ['\n'] others :=
          pieces_cons nofun nofun (Nat.lt_succ_self _) (Nat.lt_succ_self _)
        have hbegun : Begun ['\n'].reverse := plain_nil.begun
        rw [assemble_styled hstyle hplain.toPlain hcs (untagged_append.1 htags).1 (hend rfl) hn
          (Nat.lt_succ_self _), hnew, ih hbegun hrest hnext (Nat.lt_succ_self _)]
        simp [Except.map]

/-- Without a bracket there are no tags to look for. -/
theorem render_eq (markup : String) : render markup =
    (assemble [] (pieces (markup.toList.length + 1) [] markup.toList)).map fun shown =>
      String.ofList (shown.filter fun c => !isControl c) := by
  unfold render
  dsimp only
  split
  · cases assemble [] (pieces (markup.toList.length + 1) [] markup.toList) <;> rfl
  · next hbracket =>
    have hnone : '[' ∉ markup.toList := by simpa using hbracket
    have hun := unescaped_of_notMem hnone
    rw [pieces_of_untagged hun (untagged_of_notMem hnone) (Nat.lt_succ_self _), assemble_text,
      List.reverse_nil, List.nil_append, dropEscapes_of_unescaped hun]
    exact congrArg (fun cs => Except.ok (String.ofList (cs.filter fun c => !isControl c)))
      (List.append_nil _).symm

theorem render_of_unmarked {text : String} (h : Unmarked text.toList) : render text = .ok text := by
  rw [render_eq, pieces_of_untagged h.unescaped h.untagged (Nat.lt_succ_self _), assemble_text,
    List.reverse_nil, List.nil_append, h.shown]
  simp [assemble, Except.map, h.filter]

/-- Plain lines, some of them in a style, are shown as they are if they complete no tag. -/
theorem render_lines (hstyle : IsStyle style) (hlines : ∀ line ∈ lines, line.Plain)
    (htags : Untagged (shownText lines) []) :
    render (String.ofList (markedText style lines)) = .ok (String.ofList (shownText lines)) := by
  have hbegun : Begun [].reverse := begun_nil
  rw [render_eq, String.toList_ofList,
    assemble_lines hstyle hbegun hlines htags (Nat.lt_succ_self _), List.reverse_nil,
    List.nil_append, Except.map, (plain_shownText hlines).filter]

end PascalWorkspace.Console
