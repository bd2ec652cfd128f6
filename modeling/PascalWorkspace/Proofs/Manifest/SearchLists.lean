import Mathlib.Data.List.DropRight
import PascalWorkspace.Proofs.Except
import PascalWorkspace.Proofs.Manifest.Shape

/-! Lists of search paths. Each piece between semicolons that is not blank stands for one entry,
whatever its neighbours are, and if several pieces cannot be made absolute the first one is told.
-/
namespace PascalWorkspace

namespace Manifest

variable {h : Host} {base : Path} {piece : List Char} {pieces : List (List Char)}
  {entries : List String} {e : PathError}

/-- A piece with something else than blanks in it. -/
def isWritten (piece : List Char) : Bool := piece.any (!Text.isBlank ·)

/-- The pieces of a list that are not blank. -/
def writtenPieces (raw : String) : List (List Char) := (raw.toList.splitOn ';').filter isWritten

/-- What a piece stands for, taken by itself. With a macro it is kept as written, but for the blanks
around it; else it is a path from the directory of the manifest, and its absolute form is taken. -/
def standsFor (h : Host) (base : Path) (piece : List Char) : Except PathError String :=
  let entry := Text.trimBlank piece
  if ['$', '('] <:+: entry then .ok (String.ofList entry)
  else (h.resolve (base.child (String.ofList (forwardSlashes entry)))).map Path.toString

/-- Nothing is left of a piece exactly if it is blank. -/
theorem isEmpty_trimBlank : (Text.trimBlank piece).isEmpty = !isWritten piece := by
  have hends : Text.trimBlank piece = (piece.dropWhile Text.isBlank).rdropWhile Text.isBlank := rfl
  rw [Bool.eq_iff_iff, List.isEmpty_iff, hends, List.rdropWhile_eq_nil_iff]
  cases hrest : piece.dropWhile Text.isBlank with
  | nil =>
    rw [List.dropWhile_eq_nil_iff] at hrest
    simpa [isWritten] using hrest
  | cons c rest =>
    have hc : Text.isBlank c = false := by
      have hhead := List.head_dropWhile_not (p := Text.isBlank) (l := piece) (by simp [hrest])
      simpa [hrest] using hhead
    have hmem : c ∈ piece := (List.dropWhile_subset _) (hrest ▸ List.mem_cons_self)
    refine iff_of_false (fun hall => ?_) ?_
    · simp [hall c List.mem_cons_self] at hc
    · simpa [isWritten] using ⟨c, hmem, hc⟩

/-- A piece has the one entry that it stands for, or none if it is blank. -/
theorem searchEntry_eq (h : Host) (base : Path) (piece : List Char) :
    searchEntry h base piece =
      if isWritten piece then (standsFor h base piece).map some else .ok none := by
  rw [searchEntry, isEmpty_trimBlank]
  cases isWritten piece with
  | false => rfl
  | true =>
    rw [Bool.not_true, if_neg Bool.false_ne_true, if_pos rfl, standsFor]
    by_cases hmacro : ['$', '('] <:+: Text.trimBlank piece
    · rw [if_pos (hasMacro_iff.2 hmacro), if_pos hmacro]
      rfl
    · rw [if_neg (mt hasMacro_iff.1 hmacro), if_neg hmacro]
      cases h.resolve (base.child (String.ofList (forwardSlashes (Text.trimBlank piece)))) <;> rfl

/-- The entries of a list are what its pieces stand for. -/
theorem searchEntries_eq_mapM (h : Host) (base : Path) (pieces : List (List Char)) :
    searchEntries h base pieces = (pieces.filter isWritten).mapM (standsFor h base) := by
  induction pieces with
  | nil => rfl
  | cons piece rest ih =>
    rw [searchEntries, searchEntry_eq, ih]
    cases hwritten : isWritten piece with
    | false =>
      rw [if_neg Bool.false_ne_true, List.filter_cons_of_neg (by simp [hwritten])]
      cases (rest.filter isWritten).mapM (standsFor h base) <;> rfl
    | true =>
      rw [if_pos rfl, List.filter_cons_of_pos hwritten, List.mapM_cons]
      cases standsFor h base piece <;> rfl

theorem splitSearchPath_eq_mapM (h : Host) (base : Path) (raw : String) :
    splitSearchPath h base raw = (writtenPieces raw).mapM (standsFor h base) := by
  rw [splitSearchPath, Path.splitChars_eq_splitOn, searchEntries_eq_mapM, writtenPieces]

theorem writtenPieces_append (a b : String) :
    writtenPieces (a ++ ";" ++ b) = writtenPieces a ++ writtenPieces b := by
  have htext : (a ++ ";" ++ b).toList = a.toList ++ ';' :: b.toList := by simp
  rw [writtenPieces, htext, List.splitOn_append_cons_self, List.filter_append]
  rfl

/-- Two lists of search paths with a semicolon between them give the entries of the one and then
those of the other, or what is told of the first that fails. Each list has one entry for each piece
that is not blank, in order, and each entry depends on its own piece only; a list fails as its first
piece does that cannot be made absolute. -/
theorem splitSearchPath_concat (h : Host) (base : Path) :
    (∀ a b, splitSearchPath h base (a ++ ";" ++ b) = do
      let entries ← splitSearchPath h base a
      let others ← splitSearchPath h base b
      return entries ++ others) ∧
    (∀ raw entries, splitSearchPath h base raw = .ok entries ↔
      List.Forall₂ (fun piece entry => standsFor h base piece = .ok entry) (writtenPieces raw)
        entries) ∧
    ∀ raw e, splitSearchPath h base raw = .error e ↔ ∃ early piece late,
      writtenPieces raw = early ++ piece :: late ∧
        (∀ other ∈ early, ∃ entry, standsFor h base other = .ok entry) ∧
        standsFor h base piece = .error e := by
  refine ⟨fun a b => ?_, fun raw entries => ?_, fun raw e => ?_⟩
  · simp only [splitSearchPath_eq_mapM, writtenPieces_append, List.mapM_append]
  · rw [splitSearchPath_eq_mapM, mapM_eq_ok_iff]
  · rw [splitSearchPath_eq_mapM, mapM_eq_error_iff]

end Manifest

end PascalWorkspace
