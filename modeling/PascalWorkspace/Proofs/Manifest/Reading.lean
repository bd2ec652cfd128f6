import PascalWorkspace.Manifest.Reading
import PascalWorkspace.Proofs.Host.Keys

/-! What can be said of reading a manifest. Only an encoding that is not supported makes it fail in
another way than as a manifest that cannot be read. The hints of a manifest that could be read are
empty or texts of absolute paths, and have canonical spellings unless a link leads back to itself.
-/
namespace PascalWorkspace

/-- An absolute path in normal form, of names that a system can be asked for. -/
structure Path.IsFull (p : Path) : Prop where
  absolute : p.anchor ≠ .relative
  parts : ∀ part ∈ p.parts, IsPart part
  noNul : Host.holdsNul p = false

theorem Path.Spelled.isFull {p : Path} (hp : p.Spelled) : p.IsFull :=
  ⟨hp.absolute, fun part hpart => (hp.names part hpart).toIsPart, Host.holdsNul_of_spelled hp⟩

/-- Only a link that leads back to itself keeps a full path from having a canonical spelling. -/
theorem Host.canonical_of_isFull {p : Path} (h : Host) (hp : p.IsFull) :
    (∃ key, h.canonical p.toString = .ok key) ∨
      ∃ path, h.canonical p.toString = .error (.linkLoop path) := by
  have hresolve : h.canonical p.toString = h.resolve p >>= fun q => pure q.toString := by
    rw [canonical, Path.ofString_toString hp.parts,
      expandHome_eq_self fun htilde => hp.absolute htilde.1]
    rfl
  rw [hresolve, resolve, hp.noNul, if_neg Bool.false_ne_true]
  dsimp only
  split
  · exact .inr ⟨_, rfl⟩
  · exact .inl ⟨_, rfl⟩

/-- Every path is that of a manifest that can be read, or is reported as one that cannot. -/
def ReadsOrReports (h : Host) : Prop :=
  ∀ p, Host.holdsNul p = false → (∃ m, readManifest h p = .ok m) ∨
    ∃ path fault, readManifest h p = .error (.manifest path fault)

namespace Manifest

open FileTree Host

variable {h : Host} {base directory path : Path} {name raw text : String} {names : List String}
  {item : Xml.Element} {items : List Xml.Element} {q : Requirement} {m : Manifest}
  {requirements : List Requirement}

/-- The empty text, or the text of a full path. -/
def IsHint (text : String) : Prop := text = "" ∨ ∃ p : Path, p.IsFull ∧ text = p.toString

theorem mem_of_firstPackage (hfound : firstPackage names = some name) : name ∈ names :=
  (List.mem_filter.1 (List.mem_mergeSort.1 (List.mem_of_head? hfound))).1

theorem isHint_of_packageIn (ht : h.tree.WellFormed) (hdirectory : directory.Spelled)
    (hok : packageIn h directory name = .ok text) : IsHint text := by
  have hparts {part other : String} (hpart : part ∈ (directory.child other).parts) :
      Path.IsPart part :=
    (Path.mem_parts_child hpart).elim (fun hown => (hdirectory.names part hown).toIsPart) id
  obtain ⟨file, hfile, hok⟩ := bind_eq_ok_iff.1 hok
  cases file with
  | true =>
    obtain rfl := Except.ok.inj hok
    obtain ⟨loc, hloc, -⟩ := exists_locate_of_test hfile
    exact .inr ⟨_, ⟨Path.absolute_child hdirectory.absolute _, fun _ => hparts,
      (locate_eq_ok_iff.1 hloc).1⟩, rfl⟩
  | false =>
    obtain ⟨names, hnames, hok⟩ := bind_eq_ok_iff.1 hok
    split at hok
    · next found hfound =>
      obtain rfl := Except.ok.inj hok
      obtain ⟨loc, -, -, rfl⟩ := exists_of_childNames hnames
      have hname := ht.isFileName (mem_of_firstPackage hfound)
      refine .inr ⟨_, ⟨Path.absolute_child hdirectory.absolute _, fun _ => hparts, ?_⟩, rfl⟩
      refine holdsNul_eq_false.2 fun part hpart => ?_
      rw [Path.child_of_isPart hname.toIsPart] at hpart
      obtain hpart | hpart := List.mem_append.1 hpart
      · exact (hdirectory.names part hpart).noNul
      · exact List.mem_singleton.1 hpart ▸ hname.noNul
    · exact .inl (Except.ok.inj hok).symm

section Regular

variable (hh : h.Regular) (ht : h.tree.WellFormed) (hbase : ∀ part ∈ base.parts, '/' ∉ part.toList)
include hh ht hbase

theorem isHint_of_resolveHint (hok : resolveHint h base name raw = .ok text) : IsHint text := by
  unfold resolveHint at hok
  split at hok
  · exact .inl (Except.ok.inj hok).symm
  · obtain ⟨hint, hhint, hok⟩ := bind_eq_ok_iff.1 hok
    have hspelled : hint.Spelled := spelled_of_resolve hh (fun part hpart =>
      (Path.mem_parts_child hpart).elim (hbase part) Path.IsPart.noSlash) hhint
    obtain ⟨directory, -, hok⟩ := bind_eq_ok_iff.1 hok
    cases directory with
    | true => exact isHint_of_packageIn ht hspelled hok
    | false => exact .inr ⟨hint, hspelled.isFull, (Except.ok.inj hok).symm⟩

theorem isHint_of_readRequirement (hok : readRequirement h base item = .ok (some q)) :
    IsHint q.hint := by
  unfold readRequirement at hok
  dsimp only at hok
  split at hok
  · cases hok
  · obtain ⟨hint, hhint, hok⟩ := bind_eq_ok_iff.1 hok
    obtain rfl := Option.some.inj (Except.ok.inj hok)
    exact isHint_of_resolveHint hh ht hbase hhint

theorem isHint_of_readRequirements (hok : readRequirements h base items = .ok requirements) :
    ∀ q ∈ requirements, IsHint q.hint := by
  induction items generalizing requirements with
  | nil =>
    obtain rfl := Except.ok.inj hok
    exact List.forall_mem_nil _
  | cons item rest ih =>
    obtain ⟨first, hfirst, hok⟩ := bind_eq_ok_iff.1 hok
    obtain ⟨others, hothers, hok⟩ := bind_eq_ok_iff.1 hok
    obtain rfl := Except.ok.inj hok
    intro q hq
    obtain hq | hq := List.mem_append.1 hq
    · obtain rfl := Option.mem_toList.1 hq
      exact isHint_of_readRequirement hh ht hbase hfirst
    · exact ih hothers q hq

end Regular

theorem exists_entryAt_of_readFile {bytes : List UInt8} (hok : h.readFile path = .ok bytes) :
    ∃ loc, h.tree.entryAt loc = some (.file bytes) := by
  obtain ⟨loc, hloc⟩ := exists_locate_of_readFile hok
  refine ⟨loc, ?_⟩
  simp only [readFile, entry?, hloc] at hok
  cases hentry : h.tree.entryAt loc with
  | none => simp [hentry] at hok
  | some entry => cases entry <;> simp_all

/-- A machine on which no file has an encoding that is not supported. -/
theorem readsOrReports_of_parse (hparse : ∀ loc bytes, h.tree.entryAt loc = some (.file bytes) →
      (∃ root, Xml.parse bytes = .ok root) ∨ Xml.parse bytes = .error .notWellFormed) :
    ReadsOrReports h := by
  intro path hnul
  have hdocument : ∃ document, readDocument h path = .ok document := by
    unfold readDocument
    cases hfile : h.readFile path with
    | ok bytes =>
      obtain ⟨loc, hloc⟩ := exists_entryAt_of_readFile hfile
      obtain ⟨root, hroot⟩ | hfault := hparse loc bytes hloc
      · exact ⟨_, by simp only [hroot]; rfl⟩
      · exact ⟨_, by simp only [hfault]; rfl⟩
    | error e =>
      obtain ⟨reason, place, rfl⟩ := isRefusal_of_readFile hnul hfile
      exact ⟨_, rfl⟩
  obtain ⟨document, hdocument⟩ := hdocument
  unfold readManifest
  rw [hdocument]
  cases document with
  | error fault => exact .inr ⟨_, _, rfl⟩
  | ok root =>
    dsimp only [bind, Except.bind]
    cases ofDocument h path root with
    | ok m => exact .inl ⟨m, rfl⟩
    | error fault => exact .inr ⟨_, fault, rfl⟩

theorem exists_parse (hok : readManifest h path = .ok m) :
    ∃ bytes root, h.readFile path = .ok bytes ∧ Xml.parse bytes = .ok root := by
  obtain ⟨document, hdocument, hok⟩ := bind_eq_ok_iff.1 hok
  cases document with
  | error fault => cases hok
  | ok root =>
    unfold readDocument at hdocument
    split at hdocument
    · cases hdocument
    · cases hdocument
    · next bytes hbytes =>
      split at hdocument
      · next root hroot => exact ⟨bytes, root, hbytes, hroot⟩
      all_goals cases hdocument

/-- The data of a manifest stand in the sections of its document. -/
theorem exists_sections {root : Xml.Element} (hok : ofDocument h path root = .ok m) :
    ∃ found, sections (ManifestKind.ofExtension path.extension) root = .ok found ∧
      m.name = (if found.name.isEmpty then path.stem else found.name) ∧
      m.directory = path.parent.toString ∧
      readSearchPaths h path.parent found.options = .ok m.paths ∧
      readRequirements h path.parent ((found.required.map (·.children)).getD []) =
        .ok m.requirements := by
  unfold ofDocument at hok
  split at hok
  · cases hok
  · obtain ⟨found, hfound, hok⟩ := bind_eq_ok_iff.1 hok
    split at hok
    · cases hok
    · next paths requirements hpaths =>
      obtain rfl := Except.ok.inj hok
      obtain ⟨own, hown, hpaths⟩ := bind_eq_ok_iff.1 hpaths
      obtain ⟨others, hothers, hpaths⟩ := bind_eq_ok_iff.1 hpaths
      obtain ⟨rfl, rfl⟩ := Prod.mk.inj (Except.ok.inj hpaths)
      exact ⟨found, hfound, rfl, rfl, hown, hothers⟩

theorem exists_ofDocument (hok : readManifest h path = .ok m) :
    ∃ root, readDocument h path = .ok (.ok root) ∧ ofDocument h path root = .ok m := by
  obtain ⟨document, hdocument, hok⟩ := bind_eq_ok_iff.1 hok
  cases document with
  | error fault => cases hok
  | ok root =>
    dsimp only at hok
    split at hok
    · next manifest hmanifest =>
      obtain rfl := Except.ok.inj hok
      exact ⟨root, hdocument, hmanifest⟩
    · cases hok

/-- A hint of a manifest has a canonical spelling, or a link leads back to itself. -/
theorem canonical_hint (hh : h.Regular) (ht : h.tree.WellFormed) (hpath : path.Spelled)
    (hok : readManifest h path = .ok m) (hq : q ∈ m.requirements) (hne : q.hint ≠ "") :
    (∃ key, h.canonical q.hint = .ok key) ∨
      ∃ loop, h.canonical q.hint = .error (.linkLoop loop) := by
  obtain ⟨root, -, hdocument⟩ := exists_ofDocument hok
  obtain ⟨found, -, -, -, -, hrequirements⟩ := exists_sections hdocument
  have hbase : ∀ part ∈ path.parent.parts, '/' ∉ part.toList := fun part hpart =>
    (hpath.names part (List.mem_of_mem_dropLast hpart)).noSlash
  obtain hempty | ⟨p, hp, htext⟩ := isHint_of_readRequirements hh ht hbase hrequirements q hq
  · exact absurd hempty hne
  · rw [htext]
    exact h.canonical_of_isFull hp

end Manifest

end PascalWorkspace
