import PascalWorkspace.Proofs.Host.Entries
import PascalWorkspace.Proofs.Host.Keys
import PascalWorkspace.Proofs.Manifest.Congruence
import PascalWorkspace.Proofs.Xml.Document
import PascalWorkspace.Proofs.Xml.Encoding

/-! How reading a manifest fails. A document holds no NUL character, so that every path in it can be
asked about, and what comes of asking is a path, a loop or a refusal of the operating system. -/
namespace PascalWorkspace

/-- A loop or an error of the operating system. -/
def PathError.IsCaught (e : PathError) : Prop := e.IsRefusal ∨ ∃ path, e = .linkLoop path

/-- A fault is told if asking for the paths in a manifest ended in a loop or was refused, and in
all other cases. -/
def ManifestFault.IsCaught (fault : ManifestFault) : Prop :=
  ∀ e, fault = .unresolvable e → e.IsCaught

namespace Xml

theorem Legal.noNul {cs : Chars} (h : Legal cs) : '\x00' ∉ cs :=
  fun hmem => absurd (h _ hmem) (by decide)

namespace Element

variable {e child : Element} {tag name : String}

theorem IsLegal.child? (he : e.IsLegal) (hchild : e.child? tag = some child) : child.IsLegal := by
  obtain ⟨-, hchildren⟩ := he
  exact hchildren child (List.mem_of_find?_eq_some hchild)

theorem IsLegal.value (he : e.IsLegal) : Legal (e.value name).toList := by
  obtain ⟨hattributes, -⟩ := he
  rw [Element.value, attribute?]
  cases hlookup : e.attributes.lookup name with
  | none => exact legal_nil
  | some text =>
    obtain ⟨before, behind, hsplit, -⟩ := List.lookup_eq_some_iff.1 hlookup
    exact hattributes (name, text) (by simp [hsplit])

end Element

/-- An optional element is legal if there is one. -/
def LegalOption (e : Option Element) : Prop := ∀ found ∈ e, found.IsLegal

theorem LegalOption.child? {e : Option Element} {tag : String} (he : LegalOption e) :
    LegalOption (e.bind (·.child? tag)) := by
  intro child hchild
  obtain ⟨found, hfound, hchild⟩ := Option.bind_eq_some_iff.1 hchild
  exact (he found hfound).child? hchild

theorem LegalOption.childValue {e : Option Element} (he : LegalOption e) (tag name : String) :
    Legal (childValue e tag name).toList := by
  unfold Xml.childValue
  cases hchild : e.bind (·.child? tag) with
  | none => exact legal_nil
  | some child => exact (he.child? child hchild).value

end Xml

namespace Host

variable {h : Host} {p : Path} {name : String} {e : PathError}

/-- Only a loop keeps a path without NUL characters from becoming absolute. -/
theorem resolve_eq_error (hnul : holdsNul p = false) (he : h.resolve p = .error e) :
    ∃ place, e = .linkLoop place := by
  unfold resolve at he
  rw [hnul, if_neg Bool.false_ne_true] at he
  dsimp only at he
  split at he
  · exact ⟨_, (Except.error.inj he).symm⟩
  · cases he

theorem holdsNul_child (hp : holdsNul p = false) (hname : '\x00' ∉ name.toList) :
    holdsNul (p.child name) = false := by
  have hpieces : ∀ part ∈ (Path.ofString name).parts, '\x00' ∉ part.toList := fun part hpart hmem =>
    hname ((Path.mem_pieces (List.mem_filter.1 hpart).1).2 hmem)
  rw [holdsNul_eq_false] at hp ⊢
  rw [Path.child, Path.join]
  split
  · exact List.forall_mem_append.2 ⟨hp, hpieces⟩
  · exact hpieces

end Host

namespace Manifest

open Host Xml

variable {h : Host} {base directory path : Path} {raw name : String} {piece : List Char}
  {pieces : List (List Char)} {item : Element} {items : List Element} {e : PathError}
  {found : Sections} {options : Option Element}

theorem noNul_forwardSlashes {cs : List Char} (hcs : '\x00' ∉ cs) :
    '\x00' ∉ (String.ofList (forwardSlashes cs)).toList := by
  have htext : (String.ofList (forwardSlashes cs)).toList = forwardSlashes cs :=
    String.toList_ofList
  rw [htext, forwardSlashes, List.mem_map]
  rintro ⟨c, hc, heq⟩
  split at heq
  · exact absurd heq (by decide)
  · exact hcs (heq ▸ hc)

theorem trimBlank_subset (cs : List Char) : Text.trimBlank cs ⊆ cs := by
  intro c hc
  have hend := List.mem_reverse.1 ((List.dropWhile_suffix _).subset (List.mem_reverse.1 hc))
  exact (List.dropWhile_suffix _).subset hend

theorem isRefusal_of_packageIn (hdirectory : h.isDirectory directory = .ok true)
    (he : packageIn h directory name = .error e) : e.IsRefusal := by
  obtain he | ⟨file, -, he⟩ := bind_eq_error_iff.1 he
  · exact isRefusal_of_test he
  · cases file with
    | true => cases he
    | false =>
      obtain he | ⟨names, -, he⟩ := bind_eq_error_iff.1 he
      · obtain ⟨loc, hloc, -⟩ := exists_locate_of_test hdirectory
        exact isRefusal_of_childNames hloc he
      · split at he <;> cases he

section NoNul

variable (hbase : holdsNul base = false)
include hbase

theorem isCaught_of_searchEntry (hpiece : '\x00' ∉ piece)
    (he : searchEntry h base piece = .error e) : e.IsCaught := by
  unfold searchEntry at he
  dsimp only at he
  split at he
  · cases he
  · split at he
    · cases he
    · obtain he | ⟨_, -, he⟩ := bind_eq_error_iff.1 he
      · have hentry : '\x00' ∉ Text.trimBlank piece := fun hmem => hpiece (trimBlank_subset _ hmem)
        exact .inr (resolve_eq_error (holdsNul_child hbase (noNul_forwardSlashes hentry)) he)
      · cases he

theorem isCaught_of_searchEntries (hpieces : ∀ piece ∈ pieces, '\x00' ∉ piece)
    (he : searchEntries h base pieces = .error e) : e.IsCaught := by
  induction pieces with
  | nil => cases he
  | cons piece rest ih =>
    obtain ⟨hpiece, hrest⟩ := List.forall_mem_cons.1 hpieces
    obtain he | ⟨_, -, he⟩ := bind_eq_error_iff.1 he
    · exact isCaught_of_searchEntry hbase hpiece he
    · obtain he | ⟨_, -, he⟩ := bind_eq_error_iff.1 he
      · exact ih hrest he
      · cases he

theorem isCaught_of_splitSearchPath (hraw : '\x00' ∉ raw.toList)
    (he : splitSearchPath h base raw = .error e) : e.IsCaught :=
  isCaught_of_searchEntries hbase
    (fun _ hpiece hmem => hraw ((Path.mem_splitChars hpiece).2 hmem)) he

theorem isCaught_of_readSearchPaths (hoptions : LegalOption options)
    (he : readSearchPaths h base options = .error e) : e.IsCaught := by
  have hread {tag : String} (he : splitSearchPath h base (childValue
      (options.bind (·.child? "SearchPaths")) tag "Value") = .error e) : e.IsCaught :=
    isCaught_of_splitSearchPath hbase (hoptions.child?.childValue tag "Value").noNul he
  obtain he | ⟨_, -, he⟩ := bind_eq_error_iff.1 he
  · exact hread he
  · obtain he | ⟨_, -, he⟩ := bind_eq_error_iff.1 he
    · exact hread he
    · obtain he | ⟨_, -, he⟩ := bind_eq_error_iff.1 he
      · exact hread he
      · cases he

theorem isCaught_of_resolveHint (hraw : '\x00' ∉ raw.toList)
    (he : resolveHint h base name raw = .error e) : e.IsCaught := by
  unfold resolveHint at he
  split at he
  · cases he
  · obtain he | ⟨hint, -, he⟩ := bind_eq_error_iff.1 he
    · exact .inr (resolve_eq_error (holdsNul_child hbase (noNul_forwardSlashes hraw)) he)
    · obtain he | ⟨answer, hanswer, he⟩ := bind_eq_error_iff.1 he
      · exact .inl (isRefusal_of_test he)
      · cases answer with
        | true => exact .inl (isRefusal_of_packageIn hanswer he)
        | false => cases he

theorem isCaught_of_readRequirement (hitem : item.IsLegal)
    (he : readRequirement h base item = .error e) : e.IsCaught := by
  unfold readRequirement at he
  dsimp only at he
  split at he
  · cases he
  · obtain he | ⟨_, -, he⟩ := bind_eq_error_iff.1 he
    · refine isCaught_of_resolveHint hbase ?_ he
      cases hfile : item.child? "DefaultFilename" with
      | none => exact legal_nil.noNul
      | some file => exact (hitem.child? hfile).value.noNul
    · cases he

theorem isCaught_of_readRequirements (hitems : ∀ item ∈ items, item.IsLegal)
    (he : readRequirements h base items = .error e) : e.IsCaught := by
  induction items with
  | nil => cases he
  | cons item rest ih =>
    obtain ⟨hitem, hrest⟩ := List.forall_mem_cons.1 hitems
    obtain he | ⟨_, -, he⟩ := bind_eq_error_iff.1 he
    · exact isCaught_of_readRequirement hbase hitem he
    · obtain he | ⟨_, -, he⟩ := bind_eq_error_iff.1 he
      · exact ih hrest he
      · cases he

theorem isCaught_of_readPaths (hoptions : LegalOption found.options)
    (hrequired : LegalOption found.required) (he : readPaths h base found = .error e) :
    e.IsCaught := by
  obtain he | ⟨_, -, he⟩ := bind_eq_error_iff.1 he
  · exact isCaught_of_readSearchPaths hbase hoptions he
  · obtain he | ⟨_, -, he⟩ := bind_eq_error_iff.1 he
    · refine isCaught_of_readRequirements hbase (fun item hitem => ?_) he
      cases hsection : found.required with
      | none => simp [hsection] at hitem
      | some required =>
        obtain ⟨-, hchildren⟩ := hrequired required hsection
        rw [hsection] at hitem
        exact hchildren item hitem
    · cases he

end NoNul

theorem legal_sections {kind : Option ManifestKind} {root : Element} (hroot : root.IsLegal)
    (hok : sections kind root = .ok found) :
    LegalOption found.options ∧ LegalOption found.required := by
  have hchild {e : Element} (he : e.IsLegal) (tag : String) : LegalOption (e.child? tag) :=
    fun _ hfound => he.child? hfound
  unfold sections at hok
  split at hok
  · split at hok
    · cases hok
    · next package hpackage =>
      obtain rfl := Except.ok.inj hok
      have hlegal := hroot.child? hpackage
      exact ⟨hchild hlegal _, hchild hlegal _⟩
  · obtain rfl := Except.ok.inj hok
    exact ⟨hchild hroot _, (hchild hroot _).child?⟩
  · cases hok

/-- What is wrong with a document is told, whatever became of the paths in it. -/
theorem isCaught_of_ofDocument {root : Element} {fault : ManifestFault} (hroot : root.IsLegal)
    (hnul : holdsNul path = false) (hfault : ofDocument h path root = .error fault) :
    fault.IsCaught := by
  rintro e rfl
  unfold ofDocument at hfault
  split at hfault
  · cases hfault
  · obtain hfault | ⟨found, hfound, hfault⟩ := bind_eq_error_iff.1 hfault
    · unfold sections at hfault
      split at hfault
      · split at hfault <;> cases hfault
      · cases hfault
      · cases hfault
    · split at hfault
      · next other hpaths =>
        obtain rfl := ManifestFault.unresolvable.inj (Except.error.inj hfault)
        obtain ⟨hoptions, hrequired⟩ := legal_sections hroot hfound
        have hparent : holdsNul path.parent = false := holdsNul_eq_false.2 fun part hpart =>
          holdsNul_eq_false.1 hnul part (List.mem_of_mem_dropLast hpart)
        exact isCaught_of_readPaths hparent hoptions hrequired hpaths
      · cases hfault

end Manifest

/-- A manifest is read, or what is wrong with it is told together with its path. -/
def ReadsOrTells (h : Host) (path : Path) : Prop :=
  (∃ m, readManifest h path = .ok m) ∨
    ∃ fault : ManifestFault, fault.IsCaught ∧
      readManifest h path = .error (.manifest path.toString fault)

/-- There is a file, and its document names an encoding that is not supported. -/
def NamesUnsupported (h : Host) (path : Path) : Prop :=
  ∃ bytes name e, h.readFile path = .ok bytes ∧ Xml.declaredEncoding bytes = some name ∧
    Xml.unsupported? name = some e

namespace Manifest

open Host

variable {h : Host} {path : Path}

theorem readsOrTells_of_parse {root : Xml.Element} {bytes : List UInt8}
    (hnul : holdsNul path = false) (hfile : h.readFile path = .ok bytes)
    (hparse : Xml.parse bytes = .ok root) : ReadsOrTells h path := by
  have hread := readManifest_of_parse hfile hparse
  cases hdocument : ofDocument h path root with
  | ok m =>
    rw [hdocument] at hread
    exact .inl ⟨m, hread⟩
  | error fault =>
    rw [hdocument] at hread
    exact .inr ⟨fault, isCaught_of_ofDocument (Xml.isLegal_of_parse hparse) hnul hdocument, hread⟩

theorem namesUnsupported_iff {bytes : List UInt8} (hfile : h.readFile path = .ok bytes) :
    NamesUnsupported h path ↔ ∃ e, e ≠ .notWellFormed ∧ Xml.parse bytes = .error e := by
  constructor
  · rintro ⟨content, name, e, hcontent, hname, he⟩
    obtain rfl := Except.ok.inj (hfile.symm.trans hcontent)
    have hne := Xml.ne_notWellFormed_of_unsupported he
    exact ⟨e, hne, (Xml.parse_eq_error hne).2 (by rw [hname, Option.bind_some, he])⟩
  · rintro ⟨e, hne, hparse⟩
    obtain ⟨name, hname, he⟩ := Option.bind_eq_some_iff.1 ((Xml.parse_eq_error hne).1 hparse)
    exact ⟨bytes, name, e, hfile, hname, he⟩

/-- Nothing is told of a document whose encoding is not supported. -/
theorem fails_of_unsupported {bytes : List UInt8} {e : XmlError}
    (hfile : h.readFile path = .ok bytes) (hne : e ≠ .notWellFormed)
    (hparse : Xml.parse bytes = .error e) :
    readManifest h path = .error .unknownEncoding ∨
      readManifest h path = .error .multiByteEncoding := by
  rw [readManifest, readDocument, hfile]
  dsimp only
  rw [hparse]
  cases e with
  | notWellFormed => exact absurd rfl hne
  | unknownEncoding => exact .inl rfl
  | multiByteEncoding => exact .inr rfl

/-- A manifest is read or told of unless its document names an encoding that is not supported. Then
nothing is told of it. -/
theorem readsOrTells_or_unsupported (hnul : holdsNul path = false) :
    ReadsOrTells h path ∧ ¬ NamesUnsupported h path ∨ NamesUnsupported h path ∧
      (readManifest h path = .error .unknownEncoding ∨
        readManifest h path = .error .multiByteEncoding) := by
  cases hfile : h.readFile path with
  | error e =>
    obtain ⟨reason, place, rfl⟩ := isRefusal_of_readFile hnul hfile
    refine .inl ⟨.inr ⟨_, by rintro _ ⟨⟩, readManifest_of_refused hfile⟩, ?_⟩
    rintro ⟨bytes, _, _, hbytes, -⟩
    cases hfile.symm.trans hbytes
  | ok bytes =>
    rw [namesUnsupported_iff hfile]
    cases hparse : Xml.parse bytes with
    | ok root => exact .inl ⟨readsOrTells_of_parse hnul hfile hparse, fun ⟨_, _, h⟩ => nomatch h⟩
    | error e =>
      by_cases hne : e = .notWellFormed
      · subst hne
        refine .inl ⟨.inr ⟨_, by rintro _ ⟨⟩, readManifest_of_notWellFormed hfile hparse⟩, ?_⟩
        rintro ⟨e, hne, he⟩
        exact hne (Except.error.inj he).symm
      · exact .inr ⟨⟨e, hne, rfl⟩, fails_of_unsupported hfile hne hparse⟩

end Manifest

end PascalWorkspace
