import PascalWorkspace.Proofs.FileTree.Added
import PascalWorkspace.Proofs.Host.Keys
import PascalWorkspace.Proofs.Manifest.Congruence
import PascalWorkspace.Proofs.Path.Suffix
import PascalWorkspace.Proofs.Walk.Listing

/-! A machine and the same with one file more. Paths have the same canonical spellings on both, all
questions about other files are answered alike, and the directories are the same. -/
namespace PascalWorkspace

open FileTree

/-- The second machine has a file more than the first, which is not its working directory. -/
structure Host.Grows (h h' : Host) (directory : Location) (name : String) (content : List UInt8) :
    Prop where
  tree : h.tree.Grows h'.tree directory name content
  rest : h' = { h with tree := h'.tree }
  cwd : h.cwd ≠ directory ++ [name]

/-- The same where no link leads to the file. -/
structure Host.Adds (h h' : Host) (directory : Location) (name : String) (content : List UInt8) :
    Prop extends Host.Grows h h' directory name content where
  unlinked : h.tree.Unlinked h'.tree (directory ++ [name])

namespace Host

variable {h h' : Host} {directory loc : Location} {name : String} {content : List UInt8}
  {p d : Path}

section Grows

variable (hgrows : h.Grows h' directory name content)
include hgrows

theorem Grows.start (p : Path) : h'.start p = h.start p := by
  rw [hgrows.rest, Host.start, Host.start]

theorem Grows.start_ne (p : Path) : h.start p ≠ directory ++ [name] := by
  unfold Host.start
  split
  · exact fun hnil => absurd hnil.symm (by simp)
  · exact hgrows.cwd

/-- A path leads where it did, or did not lead anywhere. -/
theorem Grows.locate (p : Path) : h.locate p = h'.locate p ∨
    h.locate p = .error (.refused .notFound p.toString) ∧
      (h'.locate p = .error (.refused .notDirectory p.toString) ∨
        h'.locate p = .ok (directory ++ [name])) := by
  unfold Host.locate
  cases holdsNul p with
  | true => exact .inl rfl
  | false =>
    rw [hgrows.start, if_neg Bool.false_ne_true, if_neg Bool.false_ne_true, FileTree.locate,
      FileTree.locate]
    obtain hsame | ⟨hmissing, hrefused | hnew⟩ := hgrows.tree.follow maxLinks (h.start p) p.parts
    · exact .inl (by rw [hsame])
    · exact .inr ⟨by rw [hmissing], .inl (by rw [hrefused])⟩
    · exact .inr ⟨by rw [hmissing], .inr (by rw [hnew])⟩

/-- Without the file nothing leads to its place. -/
theorem Grows.locate_ne (p : Path) : h.locate p ≠ .ok (directory ++ [name]) := by
  intro hloc
  obtain ⟨-, hfollows⟩ := locate_eq_ok_iff.1 hloc
  exact hgrows.tree.ne_of_follows hfollows (hgrows.start_ne p) rfl

theorem Grows.entryAt (hloc : h.locate p = .ok loc) : h'.tree.entryAt loc = h.tree.entryAt loc := by
  refine hgrows.tree.entryAt_of_ne ?_
  rintro rfl
  exact hgrows.locate_ne p hloc

theorem Grows.entryOf (p : Path) : h.entry? p = h'.entry? p ∨
    h.entry? p = .error (.refused .notFound p.toString) ∧
      ( h'.entry? p = .error (.refused .notDirectory p.toString) ∨
        h'.locate p = .ok (directory ++ [name]) ∧ h'.entry? p = .ok (.file content)) := by
  unfold Host.entry?
  obtain hsame | ⟨hmissing, hrefused | hnew⟩ := hgrows.locate p
  · left
    rw [← hsame]
    cases hloc : h.locate p with
    | error e => rfl
    | ok loc =>
      dsimp only
      rw [hgrows.entryAt hloc]
  · exact .inr ⟨by rw [hmissing], .inl (by rw [hrefused])⟩
  · refine .inr ⟨by rw [hmissing], .inr ⟨hnew, ?_⟩⟩
    rw [hnew]
    dsimp only
    rw [hgrows.tree.entryAt_file]
    rfl

/-- Only of the file itself a question is answered differently, and with no before. -/
theorem Grows.test (ask : Entry → Bool) (p : Path) : h.test ask p = h'.test ask p ∨
    h.test ask p = .ok false ∧ h'.locate p = .ok (directory ++ [name]) ∧
      h'.test ask p = .ok (ask (.file content)) := by
  unfold Host.test
  obtain hsame | ⟨hmissing, hrefused | ⟨hloc, hnew⟩⟩ := hgrows.entryOf p
  · exact .inl (by rw [hsame])
  · left
    rw [hmissing, hrefused]
    rfl
  · refine .inr ⟨?_, hloc, ?_⟩
    · rw [hmissing]
      rfl
    · rw [hnew]

theorem Grows.isFile (p : Path) : h.isFile p = h'.isFile p ∨
    h.isFile p = .ok false ∧ h'.locate p = .ok (directory ++ [name]) ∧ h'.isFile p = .ok true :=
  hgrows.test _ p

theorem Grows.isDirectory (p : Path) : h.isDirectory p = h'.isDirectory p := by
  obtain hsame | ⟨hold, -, hnew⟩ := hgrows.test _ p
  · exact hsame
  · exact hold.trans hnew.symm

theorem Grows.isLink (p : Path) : h.isLink p = h'.isLink p := by
  unfold Host.isLink
  obtain hsame | ⟨hmissing, hrefused | hnew⟩ := hgrows.locate p.parent
  · rw [hsame]
    cases h'.locate p.parent with
    | error e => rfl
    | ok loc =>
      dsimp only
      by_cases hloc : loc ++ [p.name] = directory ++ [name]
      · rw [hloc, hgrows.tree.entryAt_none, hgrows.tree.entryAt_file]
      · rw [hgrows.tree.entryAt_of_ne hloc]
  · rw [hmissing, hrefused]
  · have hbelow : h'.tree.entryAt (directory ++ [name] ++ [p.name]) = none :=
      (hgrows.tree.entryAt_of_ne (by simp)).trans (hgrows.tree.entryAt_below _)
    simp only [hmissing, hnew, hbelow]

theorem Grows.readFile (p : Path) : h.readFile p = h'.readFile p ∨
    (∃ e path, h.readFile p = .error (.refused e path)) ∧
      ((∃ e path, h'.readFile p = .error (.refused e path)) ∨
        h'.locate p = .ok (directory ++ [name])) := by
  unfold Host.readFile
  obtain hsame | ⟨hmissing, hrefused | ⟨hloc, -⟩⟩ := hgrows.entryOf p
  · exact .inl (by rw [hsame])
  · exact .inr ⟨⟨_, _, by rw [hmissing]⟩, .inl ⟨_, _, by rw [hrefused]⟩⟩
  · exact .inr ⟨⟨_, _, by rw [hmissing]⟩, .inr hloc⟩

theorem Grows.isFileAt (p : Path) : h.isFileAt p = h'.isFileAt p ∨
    h.isFileAt p = .ok false ∧ h'.locate p = .ok (directory ++ [name]) ∧
      h'.isFileAt p = .ok true := by
  unfold Host.isFileAt
  split
  · exact .inl rfl
  · split
    · exact .inl rfl
    · exact hgrows.isFile p

/-- What was a file has not changed. -/
theorem Grows.readFile_of_isFile (hp : h.isFile p = .ok true) : h.readFile p = h'.readFile p := by
  obtain hsame | ⟨hmissing, -⟩ := hgrows.entryOf p
  · rw [Host.readFile, Host.readFile, hsame]
  · rw [Host.isFile, Host.test, hmissing] at hp
    cases hp

/-- Where a path leads to the file, the file is read. -/
theorem Grows.readFile_new (hp : h'.locate p = .ok (directory ++ [name])) :
    h'.readFile p = .ok content := by
  rw [Host.readFile, Host.entry?, hp]
  dsimp only
  rw [hgrows.tree.entryAt_file]
  rfl

theorem Grows.resolve (p : Path) : h.resolve p = h'.resolve p := by
  have hpath : h.tree.canonicalPath h.cwd p = h'.tree.canonicalPath h'.cwd p := by
    rw [hgrows.tree.sameLinks.canonicalPath hgrows.tree.linkCount, hgrows.rest]
  unfold Host.resolve FileTree.locate
  rw [← hpath]
  dsimp only
  obtain hsame | ⟨hmissing, hrefused | hnew⟩ :=
    hgrows.tree.follow maxLinks [] (h.tree.canonicalPath h.cwd p).parts
  · rw [hsame]
  · rw [hmissing, hrefused]
  · rw [hmissing, hnew]

theorem Grows.canonical (text : String) : h.canonical text = h'.canonical text :=
  canonical_congr hgrows.rest hgrows.resolve text

/-- The names in a directory are the same, but for that of the file in its own. -/
theorem Grows.childNames (d : Path) :
    (∃ loc before behind, h.locate d = .ok loc ∧ h'.locate d = .ok loc ∧
      h.tree.entryAt loc = some .directory ∧ h.childNames d = .ok (before ++ behind) ∧
      h'.childNames d = .ok (before ++ (if loc = directory then [name] else []) ++ behind)) ∨
    (∃ e, h.childNames d = .error e ∧ h'.childNames d = .error e) ∨
    ∃ e e', h.locate d = .error e ∧ h.childNames d = .error e ∧ e.IsRefusal ∧
      h'.childNames d = .error e' ∧ e'.IsRefusal := by
  unfold Host.childNames
  obtain hsame | ⟨hmissing, hrefused | hnew⟩ := hgrows.locate d
  · rw [← hsame]
    cases hloc : h.locate d with
    | error e => exact .inr (.inl ⟨e, rfl, rfl⟩)
    | ok loc =>
      dsimp only
      rw [hgrows.entryAt hloc, hgrows.tree.refusalAt]
      split
      · next hentry =>
        obtain ⟨before, behind, hold, hnew⟩ := hgrows.tree.childNames loc
        exact .inl ⟨loc, before, behind, rfl, rfl, hentry, by rw [hold], by rw [hnew]⟩
      · exact .inr (.inl ⟨_, rfl, rfl⟩)
  · rw [hmissing, hrefused]
    exact .inr (.inr ⟨_, _, rfl, rfl, ⟨_, _, rfl⟩, rfl, _, _, rfl⟩)
  · rw [hmissing, hnew]
    dsimp only
    rw [hgrows.tree.entryAt_file, if_neg (by simp)]
    exact .inr (.inr ⟨_, _, rfl, rfl, ⟨_, _, rfl⟩, rfl, _, _, rfl⟩)

/-- The file is found by its name in its directory. -/
theorem Grows.locate_child (hname : IsFileName name) (hloc : h'.locate d = .ok directory) :
    h'.locate (d.child name) = .ok (directory ++ [name]) := by
  obtain ⟨hnul, hfollows⟩ := locate_eq_ok_iff.1 hloc
  have hparent : h'.tree.entryAt directory = some .directory :=
    hgrows.tree.entryAt_kept hgrows.tree.parent
  rw [Path.child_of_isPart hname.toIsPart, locate_eq_ok_iff]
  refine ⟨holdsNul_eq_false.2 fun part hpart => ?_, hfollows.concat hparent hname.notDot hname.notUp
    hgrows.tree.size hgrows.tree.entryAt_file⟩
  obtain hpart | hpart := List.mem_append.1 hpart
  · exact holdsNul_eq_false.1 hnul part hpart
  · exact List.mem_singleton.1 hpart ▸ hname.noNul

theorem Grows.wellFormed (ht : h'.tree.WellFormed) : h.tree.WellFormed := by
  obtain ⟨before, behind, hold, hnew⟩ := hgrows.tree.entries
  have hsub : h.tree.entries.Sublist h'.tree.entries := by
    rw [hold, hnew]
    exact (List.sublist_cons_self _ _).append_left before
  exact ⟨(hsub.map _).nodup ht.distinct, fun e he => ht.names e (hsub.subset he)⟩

/-- In its directory the file is found, and is no directory. -/
theorem Grows.found (hname : IsFileName name) (hloc : h'.locate d = .ok directory) :
    h'.locate (d.child name) = .ok (directory ++ [name]) ∧
      h'.isManifestFile (d.child name) = .ok (isManifest (d.child name)) ∧
      h'.isRealDirectory (d.child name) = .ok false := by
  have hplace := hgrows.locate_child hname hloc
  have hentry : h'.entry? (d.child name) = .ok (.file content) := by
    unfold Host.entry?
    rw [hplace]
    dsimp only
    rw [hgrows.tree.entryAt_file]
    rfl
  refine ⟨hplace, ?_, ?_⟩
  · simp [isManifestFile, Host.isFile, Host.test, hentry, bind, Except.bind, pure, Except.pure]
  · simp [isRealDirectory, Host.isDirectory, Host.test, hentry, bind, Except.bind, pure,
      Except.pure]

/-- A file is found to be a manifest or not as it was, or is the one that was not there. -/
theorem Grows.isManifestFile (p : Path) : h.isManifestFile p = h'.isManifestFile p ∨
    h.isManifestFile p = .ok false ∧ h'.locate p = .ok (directory ++ [name]) ∧
      h'.isManifestFile p = .ok (isManifest p) := by
  unfold Host.isManifestFile
  obtain hsame | ⟨hold, hloc, hnew⟩ := hgrows.isFile p
  · exact .inl (by rw [hsame])
  · right
    simp [hold, hloc, hnew, bind, Except.bind, pure, Except.pure]

/-- The two machines list the same, but for the file among the manifests. -/
theorem Grows.listsAlike (ht : h'.tree.WellFormed) (d : Path) :
    ListsAlike (fun p => h'.locate p = .ok (directory ++ [name])) h h' d := by
  obtain ⟨loc, before, behind, -, hloc, -, hnames, hnames'⟩ | ⟨e, he, he'⟩ |
    ⟨e, e', -, he, hrefusal, he', hrefusal'⟩ := hgrows.childNames d
  · refine .listed hnames hnames' ⟨fun child hchild => ?_, fun child _ => ?_, fun child _ => ?_,
      fun child hchild => ?_⟩
    · simp only [List.mem_append] at hchild ⊢
      tauto
    · obtain hsame | ⟨hold, hplace, hnew⟩ := hgrows.isManifestFile (d.child child)
      · exact .inl hsame
      · exact .inr ⟨hold, _, hnew, fun _ => hplace⟩
    · rw [isRealDirectory, isRealDirectory, hgrows.isDirectory, hgrows.isLink]
    · by_cases hchild' : child ∈ before ++ behind
      · exact .inl hchild'
      · obtain ⟨rfl, rfl⟩ : loc = directory ∧ child = name := by
          by_cases hhere : loc = directory <;> simp_all
        obtain ⟨_, -, -, heq⟩ := exists_of_childNames hnames'
        obtain ⟨hplace, hmanifest, hreal⟩ :=
          hgrows.found (ht.isFileName (heq ▸ hchild)) hloc
        exact .inr ⟨⟨_, hmanifest, fun _ => hplace⟩, hreal⟩
  · exact .failed he he'
  · exact .refused he hrefusal he' hrefusal'

/-- A walk leads through the same directories. -/
theorem Grows.alike_all (ht : h'.tree.WellFormed) (ignored : List String) (root : Path) :
    List.Forall₂ (Visit.Alike fun p => h'.locate p = .ok (directory ++ [name]))
      (Visit.all h ignored root) (Visit.all h' ignored root) :=
  Visit.alike_all (hgrows.wellFormed ht) hgrows.tree.depth_le (fun d =>
    Visit.sameListing_of_listsAlike (hgrows.wellFormed ht) ht (hgrows.listsAlike ht d)) ignored root

end Grows

section Adds

variable (hadds : h.Adds h' directory name content)
include hadds

/-- A path that leads to the file ends with its name, in its directory. -/
theorem Adds.exists_parent (hp : h'.locate p = .ok (directory ++ [name])) :
    ∃ init, p.parts = init ++ [name] ∧
      Follows h'.tree maxLinks (h'.start p) init directory := by
  obtain ⟨-, hfollows⟩ := locate_eq_ok_iff.1 hp
  refine hadds.tree.exists_of_follows hadds.unlinked hfollows le_rfl ?_
  rw [hadds.toGrows.start]
  exact hadds.toGrows.start_ne p

/-! ### A project file -/

section Project

variable (hproject : (pathOf (directory ++ [name])).extension = ".lpi")
include hproject

/-- No directory has another package file in it. -/
theorem Adds.packageIn (d : Path) (package : String) (hd : h.isDirectory d = .ok true) :
    Manifest.packageIn h d package = Manifest.packageIn h' d package := by
  refine Manifest.packageIn_congr ((hadds.toGrows.isFile _).resolve_right fun ⟨_, hp, _⟩ => ?_) ?_
  · obtain ⟨init, hinit, -⟩ := hadds.exists_parent hp
    obtain ⟨before, last, hlast⟩ := d.exists_parts_child_suffix package
    exact Path.extension_ne_of_suffix hlast ((Path.extension_congr hinit rfl).trans hproject)
  · obtain ⟨loc, before, behind, -, -, -, hnames, hnames'⟩ | ⟨e, he, he'⟩ | ⟨e, e', hmissing, -⟩ :=
      hadds.toGrows.childNames d
    · rw [hnames, hnames']
      refine congrArg Except.ok (Manifest.firstPackage_congr ?_)
      have hextension : (Path.mk .relative [name]).extension = ".lpi" :=
        (Path.extension_congr (List.nil_append [name]).symm rfl).trans hproject
      have hname : ((Path.mk .relative [name]).extension == Manifest.packageSuffix) = false := by
        rw [hextension]
        decide
      split
      · rw [List.append_assoc, List.filter_append, List.filter_append, List.singleton_append,
          List.filter_cons_of_neg (by rw [hname]; decide)]
      · rw [List.append_nil]
    · rw [he, he']
    · obtain ⟨loc, hloc, -⟩ := exists_locate_of_test hd
      rw [hmissing] at hloc
      cases hloc

theorem Adds.sameAnswers (base : Path) : h.SameAnswers h' base where
  resolve name := hadds.toGrows.resolve (base.child name)
  isDirectory {_ p} _ := hadds.toGrows.isDirectory p
  packageIn {_ p} _ hd package := hadds.packageIn hproject p package hd

/-- What is read is the same, unless a path cannot be read on either machine. -/
theorem Adds.readManifest (hbroken : ∀ p, h'.locate p = .ok (directory ++ [name]) →
      ∃ path fault, readManifest h' p = .error (.manifest path fault)) (p : Path) :
    readManifest h p = readManifest h' p ∨
      (∃ path fault, readManifest h p = .error (.manifest path fault)) ∧
        ∃ path fault, readManifest h' p = .error (.manifest path fault) := by
  obtain hsame | ⟨⟨e, path, hold⟩, ⟨e', path', hnew⟩ | hloc⟩ := hadds.toGrows.readFile p
  · exact .inl (readManifest_congr (hadds.sameAnswers hproject _) hsame)
  · exact .inr ⟨⟨_, _, readManifest_of_refused hold⟩, _, _, readManifest_of_refused hnew⟩
  · exact .inr ⟨⟨_, _, readManifest_of_refused hold⟩, hbroken p hloc⟩

end Project

end Adds

end Host

end PascalWorkspace
