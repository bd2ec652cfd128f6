import Mathlib.Data.List.Basic
import PascalWorkspace.Path.Basic

/-! The text of a path: a path in normal form is read back from its text. -/
namespace PascalWorkspace

namespace Path

variable {s part : String} {parts : List String} {sep c : Char} {cs piece : List Char}

/-- What may be a component of a path in normal form. -/
structure IsPart (s : String) : Prop where
  plain : isPlainPart s = true
  noSlash : '/' ∉ s.toList

theorem splitChars_eq_splitOn (sep : Char) (cs : List Char) :
    splitChars sep cs = cs.splitOn sep := by
  induction cs with
  | nil => rfl
  | cons c rest ih =>
    rw [splitChars, ih, List.splitOn_cons_eq_if_modifyHead]
    by_cases hc : c = sep
    · simp [hc]
    · rw [if_neg hc, if_neg (by simpa using hc)]
      cases hrest : rest.splitOn sep with
      | nil => exact absurd hrest (List.splitOn_ne_nil sep rest)
      | cons piece pieces => rfl

/-- No piece holds a separator or a character that the text does not hold. -/
theorem mem_splitChars (h : piece ∈ splitChars sep cs) : sep ∉ piece ∧ piece ⊆ cs := by
  induction cs generalizing piece with
  | nil =>
    obtain rfl := List.mem_singleton.1 h
    simp
  | cons c rest ih =>
    rw [splitChars] at h
    split at h
    · obtain rfl | h := List.mem_cons.1 h
      · simp
      · exact ⟨(ih h).1, List.subset_cons_of_subset c (ih h).2⟩
    · next hc =>
      cases hrest : splitChars sep rest with
      | nil =>
        rw [hrest] at h
        obtain rfl := List.mem_singleton.1 h
        simp [Ne.symm hc]
      | cons first others =>
        rw [hrest] at h ih
        obtain rfl | h := List.mem_cons.1 h
        · obtain ⟨hsep, hsub⟩ := ih List.mem_cons_self
          refine ⟨?_, List.cons_subset_cons c hsub⟩
          simp [hsep, Ne.symm hc]
        · obtain ⟨hsep, hsub⟩ := ih (List.mem_cons_of_mem _ h)
          exact ⟨hsep, List.subset_cons_of_subset c hsub⟩

theorem mem_pieces (h : part ∈ pieces s) : '/' ∉ part.toList ∧ part.toList ⊆ s.toList := by
  obtain ⟨piece, hpiece, rfl⟩ := List.mem_map.1 h
  rw [String.toList_ofList]
  exact mem_splitChars hpiece

theorem isPart_of_mem_ofString (h : part ∈ (ofString s).parts) : IsPart part := by
  obtain ⟨hpiece, hplain⟩ := List.mem_filter.1 h
  exact ⟨hplain, (mem_pieces hpiece).1⟩

theorem pieces_intercalate (hparts : parts ≠ []) (h : ∀ part ∈ parts, '/' ∉ part.toList) :
    pieces ("/".intercalate parts) = parts := by
  have hpieces : ∀ piece ∈ parts.map String.toList, '/' ∉ piece := by
    simpa using h
  rw [pieces, String.toList_intercalate, splitChars_eq_splitOn]
  have hslash : "/".toList = ['/'] := by decide
  rw [hslash, List.splitOn_intercalate '/' hpieces (by simpa using hparts), List.map_map]
  simp [Function.comp_def]

theorem toString_root : (⟨.root, parts⟩ : Path).toString = "/" ++ "/".intercalate parts := by
  cases parts <;> rfl

theorem head?_of_isPart (h : IsPart s) : ∃ c cs, s.toList = c :: cs ∧ c ≠ '/' := by
  obtain ⟨hplain, hslash⟩ := h
  cases hs : s.toList with
  | nil =>
    rw [String.toList_eq_nil_iff] at hs
    simp [isPlainPart, hs] at hplain
  | cons c cs =>
    refine ⟨c, cs, rfl, ?_⟩
    rintro rfl
    exact hslash (hs ▸ List.mem_cons_self)

/-- The text behind the root does not begin with a slash. -/
theorem head?_intercalate (h : ∀ part ∈ parts, IsPart part) :
    ("/".intercalate parts).toList.head? ≠ some '/' := by
  rw [String.toList_intercalate]
  cases parts with
  | nil => simp
  | cons part rest =>
    obtain ⟨c, cs, hpart, hc⟩ := head?_of_isPart (h part List.mem_cons_self)
    cases rest with
    | nil => simpa [hpart] using hc
    | cons next others => simpa [hpart, List.intercalate_cons_cons] using hc

theorem anchorOfChars_of_head? (h : cs.head? ≠ some '/') :
    anchorOfChars cs = .relative ∧ anchorOfChars ('/' :: cs) = .root ∧
      anchorOfChars ('/' :: '/' :: cs) = .doubleRoot := by
  cases cs with
  | nil => exact ⟨rfl, rfl, rfl⟩
  | cons c cs =>
    have hc : c ≠ '/' := by simpa using h
    refine ⟨?_, ?_, ?_⟩ <;> rw [anchorOfChars] <;> simp [hc]

theorem anchorOfChars_ne_relative (h : cs.head? = some '/') : anchorOfChars cs ≠ .relative := by
  cases cs with
  | nil => cases h
  | cons c cs =>
    obtain rfl : c = '/' := by simpa using h
    unfold anchorOfChars
    split <;> simp_all

theorem toList_slash (s : String) : ("/" ++ s).toList = '/' :: s.toList := by
  rw [String.toList_append]
  rfl

theorem pieces_slash (s : String) : pieces ("/" ++ s) = "" :: pieces s := by
  rw [pieces, toList_slash, splitChars, if_pos rfl]
  rfl

theorem filter_pieces_intercalate (h : ∀ part ∈ parts, IsPart part) :
    (pieces ("/".intercalate parts)).filter isPlainPart = parts := by
  cases parts with
  | nil => rfl
  | cons part rest =>
    rw [pieces_intercalate (List.cons_ne_nil _ _) fun part hpart => (h part hpart).noSlash]
    exact List.filter_eq_self.2 fun part hpart => (h part hpart).plain

/-- A path in normal form is read back from its text. -/
theorem ofString_toString {p : Path} (h : ∀ part ∈ p.parts, IsPart part) :
    ofString p.toString = p := by
  obtain ⟨anchor, parts⟩ := p
  obtain ⟨hrelative, hroot, hdouble⟩ := anchorOfChars_of_head? (head?_intercalate h)
  cases anchor with
  | relative =>
    cases parts with
    | nil => rfl
    | cons part rest =>
      have htext : (⟨.relative, part :: rest⟩ : Path).toString = "/".intercalate (part :: rest) :=
        String.empty_append
      rw [htext, ofString, hrelative, filter_pieces_intercalate h]
  | root =>
    rw [toString_root, ofString, toList_slash, hroot, pieces_slash,
      List.filter_cons_of_neg (by decide), filter_pieces_intercalate h]
  | doubleRoot =>
    have htext : (⟨.doubleRoot, parts⟩ : Path).toString =
        "/" ++ ("/" ++ "/".intercalate parts) := by
      rw [← String.append_assoc]
      rfl
    rw [htext, ofString, toList_slash, toList_slash, hdouble, pieces_slash, pieces_slash,
      List.filter_cons_of_neg (by decide), List.filter_cons_of_neg (by decide),
      filter_pieces_intercalate h]

/-- A name is a path of one component. -/
theorem ofString_of_isPart (h : IsPart s) : ofString s = ⟨.relative, [s]⟩ := by
  have hpieces : pieces ("/".intercalate [s]) = [s] :=
    pieces_intercalate (List.cons_ne_nil _ _) (by simpa using h.noSlash)
  have hhead : s.toList.head? ≠ some '/' := by
    obtain ⟨c, cs, hs, hc⟩ := head?_of_isPart h
    simpa [hs] using hc
  have hs : "/".intercalate [s] = s := String.intercalate_singleton
  rw [hs] at hpieces
  rw [ofString, (anchorOfChars_of_head? hhead).1, hpieces]
  simp [h.plain]

theorem child_of_isPart {p : Path} (h : IsPart s) :
    p.child s = { p with parts := p.parts ++ [s] } := by
  rw [child, ofString_of_isPart h]
  rfl

theorem absolute_child {p : Path} (h : p.anchor ≠ .relative) (name : String) :
    (p.child name).anchor ≠ .relative := by
  rw [child, join]
  split
  · exact h
  · assumption

/-- The components below a path are its own and those of a text. -/
theorem mem_parts_child {p : Path} {name : String} (h : part ∈ (p.child name).parts) :
    part ∈ p.parts ∨ IsPart part := by
  rw [child, join] at h
  split at h
  · exact (List.mem_append.1 h).imp_right isPart_of_mem_ofString
  · exact .inr (isPart_of_mem_ofString h)

end Path

end PascalWorkspace
