import Mathlib.Data.List.Sort
import Mathlib.Data.String.Basic
import PascalWorkspace.Manifest.Reading

/-! What reading a manifest asks a machine. Two machines that answer these questions alike read the
same in the same file. -/
namespace PascalWorkspace

/-- Answers to all that is asked about the paths that are written in a manifest in a directory. -/
structure Host.SameAnswers (h h' : Host) (base : Path) : Prop where
  resolve (name : String) : h.resolve (base.child name) = h'.resolve (base.child name)
  isDirectory {name : String} {p : Path} (hp : h.resolve (base.child name) = .ok p) :
    h.isDirectory p = h'.isDirectory p
  packageIn {name : String} {p : Path} (hp : h.resolve (base.child name) = .ok p)
    (hd : h.isDirectory p = .ok true) (package : String) :
    Manifest.packageIn h p package = Manifest.packageIn h' p package

namespace Manifest

variable {h h' : Host} {names names' : List String}

/-- The first package of a directory is that of its package files in any order. -/
theorem firstPackage_congr
    (hperm : (names.filter fun name => (Path.mk .relative [name]).extension == packageSuffix).Perm
      (names'.filter fun name => (Path.mk .relative [name]).extension == packageSuffix)) :
    firstPackage names = firstPackage names' := by
  have hsorted (xs : List String) :
      (xs.mergeSort fun a b => decide (a ≤ b)).Pairwise (· ≤ ·) := by
    have hpairs : (xs.mergeSort fun a b => decide (a ≤ b)).Pairwise
        fun a b => decide (a ≤ b) = true :=
      List.pairwise_mergeSort (by simpa using fun a b c => le_trans) (by simpa using le_total) xs
    exact hpairs.imp of_decide_eq_true
  rw [firstPackage, firstPackage]
  congr 1
  have hsame (xs : List String) : (xs.mergeSort fun a b => decide (a ≤ b)).Perm xs :=
    List.mergeSort_perm _ _
  exact ((hsame _).trans (hperm.trans (hsame _).symm)).eq_of_pairwise' (hsorted _) (hsorted _)

/-- Which package file stands for a directory depends on that of the package's name and on the first
one. -/
theorem packageIn_congr {directory : Path} {name : String}
    (hfile : h.isFile (directory.child (name ++ packageSuffix)) =
      h'.isFile (directory.child (name ++ packageSuffix)))
    (hfirst : h.childNames directory >>= (fun names => pure (firstPackage names)) =
      h'.childNames directory >>= fun names => pure (firstPackage names)) :
    packageIn h directory name = packageIn h' directory name := by
  have hfound (k : Host) : packageIn k directory name =
      k.isFile (directory.child (name ++ packageSuffix)) >>= fun file =>
        if file then pure (directory.child (name ++ packageSuffix)).toString
        else (k.childNames directory >>= fun names => pure (firstPackage names)) >>= fun found =>
          pure (found.elim "" fun first => (directory.child first).toString) := by
    unfold packageIn
    refine congrArg (_ >>= ·) (funext fun file => ?_)
    cases file with
    | true => rfl
    | false =>
      rw [if_neg Bool.false_ne_true, if_neg Bool.false_ne_true, bind_assoc]
      refine congrArg (_ >>= ·) (funext fun names => ?_)
      rw [pure_bind]
      cases firstPackage names <;> rfl
  rw [hfound, hfound, hfile, hfirst]

section SameAnswers

variable {base : Path} (hh : h.SameAnswers h' base)
include hh

theorem searchEntry_congr (piece : List Char) :
    searchEntry h base piece = searchEntry h' base piece := by
  simp only [searchEntry, hh.resolve]

theorem searchEntries_congr (list : List (List Char)) :
    searchEntries h base list = searchEntries h' base list := by
  induction list with
  | nil => rfl
  | cons piece rest ih => rw [searchEntries, searchEntries, searchEntry_congr hh, ih]

theorem readSearchPaths_congr (options : Option Xml.Element) :
    readSearchPaths h base options = readSearchPaths h' base options := by
  simp only [readSearchPaths, splitSearchPath, searchEntries_congr hh]

theorem resolveHint_congr (name raw : String) :
    resolveHint h base name raw = resolveHint h' base name raw := by
  unfold resolveHint
  split
  · rfl
  · rw [← hh.resolve]
    cases hp : h.resolve (base.child (String.ofList (forwardSlashes raw.toList))) with
    | error e => rfl
    | ok hint =>
      dsimp only [bind, Except.bind]
      rw [← hh.isDirectory hp]
      cases hd : h.isDirectory hint with
      | error e => rfl
      | ok answer =>
        cases answer with
        | false => rfl
        | true => exact hh.packageIn hp hd name

theorem readRequirement_congr (item : Xml.Element) :
    readRequirement h base item = readRequirement h' base item := by
  simp only [readRequirement, resolveHint_congr hh]

theorem readRequirements_congr (items : List Xml.Element) :
    readRequirements h base items = readRequirements h' base items := by
  induction items with
  | nil => rfl
  | cons item rest ih => rw [readRequirements, readRequirements, readRequirement_congr hh, ih]

theorem ofDocument_congr {path : Path} (hpath : path.parent = base) (root : Xml.Element) :
    ofDocument h path root = ofDocument h' path root := by
  subst hpath
  simp only [ofDocument, readPaths, readSearchPaths_congr hh, readRequirements_congr hh]

end SameAnswers

end Manifest

/-- A file that the operating system refuses is reported as a manifest that cannot be read. -/
theorem readManifest_of_refused {h : Host} {p : Path} {e : FileError} {path : String}
    (hfile : h.readFile p = .error (.refused e path)) :
    readManifest h p = .error (.manifest p.toString (.unreadable e)) := by
  rw [readManifest, readDocument, hfile]
  rfl

/-- What is read in a file is what its document says. -/
theorem readManifest_of_parse {h : Host} {p : Path} {bytes : List UInt8} {root : Xml.Element}
    (hfile : h.readFile p = .ok bytes) (hparse : Xml.parse bytes = .ok root) :
    readManifest h p =
      (Manifest.ofDocument h p root).mapError (Failure.manifest p.toString) := by
  have hdocument : readDocument h p = .ok (.ok root) := by
    rw [readDocument, hfile]
    dsimp only
    rw [hparse]
  rw [readManifest, hdocument]
  simp only [bind, Except.bind]
  cases Manifest.ofDocument h p root <;> rfl

/-- A file that is not well-formed is reported as a manifest that cannot be read. -/
theorem readManifest_of_notWellFormed {h : Host} {p : Path} {bytes : List UInt8}
    (hfile : h.readFile p = .ok bytes) (hparse : Xml.parse bytes = .error .notWellFormed) :
    readManifest h p = .error (.manifest p.toString .notWellFormed) := by
  have hdocument : readDocument h p = .ok (.error .notWellFormed) := by
    rw [readDocument, hfile]
    dsimp only
    rw [hparse]
  rw [readManifest, hdocument]
  rfl

/-- The content of a file decides what is read in it. -/
theorem readManifest_congr {h h' : Host} {p : Path} (hh : h.SameAnswers h' p.parent)
    (hfile : h.readFile p = h'.readFile p) : readManifest h p = readManifest h' p := by
  simp only [readManifest, readDocument, hfile, Manifest.ofDocument_congr hh rfl]

end PascalWorkspace
