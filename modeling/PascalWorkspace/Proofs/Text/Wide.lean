import PascalWorkspace.Text.Wide

/-! Texts of characters alone, which are the ordinary ones: what is done to a text that may hold
halves of surrogate pairs is done to them as to a list of characters. -/
namespace PascalWorkspace.Text

variable {f : List Char → List Char} {run cs : List Char} {bytes : List UInt8}
  {points : List CodePoint}

theorem ofChars_append (cs rest : List Char) : ofChars (cs ++ rest) = ofChars cs ++ ofChars rest :=
  List.map_append

theorem map_sign_ofChars (cs : List Char) : (ofChars cs).map CodePoint.sign = cs := by
  rw [ofChars, List.map_map]
  exact List.map_id cs

theorem mapRuns_ofChars : mapRuns f run (ofChars cs) = ofChars (f (run ++ cs)) := by
  induction cs generalizing run with
  | nil => rw [ofChars, List.map_nil, mapRuns, List.append_nil]
  | cons c cs ih => rw [ofChars, List.map_cons, mapRuns, ← ofChars, ih, List.append_assoc,
      List.singleton_append]

/-- Runs of characters are changed, and halves stay. -/
theorem half_mem_mapRuns {n : Fin 0x800} :
    CodePoint.half n ∈ mapRuns f run points ↔ CodePoint.half n ∈ points := by
  have hrun (cs : List Char) : CodePoint.half n ∉ ofChars cs := by simp [ofChars]
  induction points generalizing run with
  | nil => simp [mapRuns, hrun]
  | cons p rest ih => cases p <;> simp [mapRuns, hrun, ih]

theorem strayChars_nil : strayChars [] = [] := by
  rw [strayChars, Utf8.decode?, Utf8.read]
  rfl

theorem fileChars?_ofChars : fileChars? [] (ofChars cs) = some cs := by
  induction cs with
  | nil => rw [ofChars, List.map_nil, fileChars?, strayChars_nil]
  | cons c cs ih =>
    rw [ofChars, List.map_cons, fileChars?, ← ofChars, ih, strayChars_nil]
    rfl

/-- A slash in front stays in front. -/
theorem head?_fileChars? (h : fileChars? [] points = some cs)
    (hslash : points.head?.map CodePoint.sign = some '/') : cs.head? = some '/' := by
  obtain ⟨p, rest, rfl⟩ := List.exists_cons_of_ne_nil (l := points) (by rintro rfl; cases hslash)
  cases p with
  | half n => cases hslash
  | char c =>
    obtain rfl : c = '/' := Option.some.inj hslash
    rw [fileChars?, strayChars_nil] at h
    obtain ⟨_, -, rfl⟩ := Option.map_eq_some_iff.1 h
    rfl

/-- A text is the name of a file unless there is half of a pair in it that stands for no byte. -/
theorem fileChars?_eq_none : fileChars? bytes points = none ↔
    ∃ p ∈ points, p.isEncodable = false := by
  induction points generalizing bytes with
  | nil => simp [fileChars?]
  | cons p rest ih =>
    cases p with
    | char c => simp [fileChars?, ih, CodePoint.isEncodable, CodePoint.isHalf]
    | half n =>
      rw [fileChars?]
      cases hbyte : (CodePoint.half n).strayByte? with
      | none => simp [CodePoint.isEncodable, CodePoint.isHalf, hbyte]
      | some byte => simp [ih, CodePoint.isEncodable, CodePoint.isHalf, hbyte]

namespace Wide

variable {w : Wide}

theorem isEmpty_iff : w.isEmpty = true ↔ w = "" := by
  cases w with
  | plain s => simp [isEmpty]
  | ragged r => simp [isEmpty]

end Wide

end PascalWorkspace.Text
