import PascalWorkspace.Manifest.Reading
import PascalWorkspace.Proofs.Path.Text

/-! The suffix by which package files are looked for. What has it behind it is no project file. -/
namespace PascalWorkspace

namespace Path

open Manifest

variable {sep : Char} {xs ys : List Char} {p : Path} {init : List String} {last : String}

theorem splitChars_of_not_mem (hys : sep ∉ ys) : splitChars sep ys = [ys] := by
  induction ys with
  | nil => rfl
  | cons y ys ih =>
    rw [splitChars, if_neg (List.ne_of_not_mem_cons hys).symm,
      ih (List.not_mem_of_not_mem_cons hys)]

/-- What is written behind a text without a separator lengthens its last piece. -/
theorem exists_splitChars_append (xs : List Char) (hys : sep ∉ ys) :
    ∃ init last, splitChars sep (xs ++ ys) = init ++ [last ++ ys] := by
  induction xs with
  | nil => exact ⟨[], [], splitChars_of_not_mem hys⟩
  | cons x xs ih =>
    obtain ⟨init, last, h⟩ := ih
    rw [List.cons_append, splitChars, h]
    split
    · exact ⟨[] :: init, last, rfl⟩
    · cases init with
      | nil => exact ⟨[], x :: last, rfl⟩
      | cons first init => exact ⟨(x :: first) :: init, last, rfl⟩

/-- A child that is asked for with the suffix of packages has it at the end of its name. -/
theorem exists_parts_child_suffix (p : Path) (name : String) :
    ∃ init last, (p.child (name ++ packageSuffix)).parts = init ++ [last ++ packageSuffix] := by
  have hsuffix : '/' ∉ packageSuffix.toList := by decide
  obtain ⟨init, last, hsplit⟩ := exists_splitChars_append name.toList hsuffix
  have hplain : isPlainPart (String.ofList (last ++ packageSuffix.toList)) = true := by
    cases last <;> simp [isPlainPart, packageSuffix, String.ext_iff]
  have hparts : (ofString (name ++ packageSuffix)).parts =
      (init.map String.ofList).filter isPlainPart ++ [String.ofList last ++ packageSuffix] := by
    rw [ofString, pieces, String.toList_append, hsplit, List.map_append, List.filter_append,
      List.map_singleton, List.filter_cons_of_pos hplain, List.filter_nil]
    simp
  unfold child join
  split
  · exact ⟨p.parts ++ _, _, by rw [hparts, List.append_assoc]⟩
  · exact ⟨_, _, hparts⟩

/-- The suffix of a path is that of its last component. -/
theorem extension_congr {q : Path} {before : List String} (hp : p.parts = init ++ [last])
    (hq : q.parts = before ++ [last]) : p.extension = q.extension := by
  simp [extension, suffix, name, hp, hq]

theorem extension_ne_of_suffix (hp : p.parts = init ++ [last ++ packageSuffix]) :
    p.extension ≠ ".lpi" := by
  have hname : p.name.toList.reverse = 'k' :: 'p' :: 'l' :: '.' :: last.toList.reverse := by
    simp [name, hp, packageSuffix]
  have hsuffix : p.suffix = "" ∨ p.suffix = packageSuffix := by
    rw [suffix, splitSuffix, hname]
    cases last.toList.reverse <;> simp [packageSuffix]
  have hempty : Text.lowercase "" ≠ ".lpi" := by decide
  have hpackage : Text.lowercase packageSuffix ≠ ".lpi" := by decide +kernel
  rw [extension]
  obtain h | h := hsuffix
  · rwa [h]
  · rwa [h]

/-- A name without a stem has no suffix either. -/
theorem splitSuffix_snd_eq_nil {name : List Char} (h : (splitSuffix name).1 = []) :
    (splitSuffix name).2 = [] := by
  unfold splitSuffix at h ⊢
  dsimp only at h ⊢
  generalize name.reverse.dropWhile (fun c => decide (c ≠ '.')) = rest at h ⊢
  split
  · next stem =>
    split
    · rfl
    · next hlong =>
      simp only [if_neg hlong, List.reverse_eq_nil_iff] at h
      exact absurd (by rw [h]; rfl) hlong
  · rfl
theorem stem_ne_empty (h : p.extension ≠ "") : p.stem ≠ "" := by
  intro hempty
  have hstem : (splitSuffix p.name.toList).1 = [] := String.ofList_injective hempty
  refine h ?_
  rw [extension, suffix, splitSuffix_snd_eq_nil hstem]
  decide

end Path

end PascalWorkspace
