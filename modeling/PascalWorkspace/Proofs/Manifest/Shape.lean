import PascalWorkspace.Proofs.Host.Absolute
import PascalWorkspace.Proofs.Path.Suffix

/-! The shape of what is read in a document. The names are not empty, the paths are absolute but for
entries that hold a macro, and the requirements are those that the document states. -/
namespace PascalWorkspace

namespace Manifest

open Host

variable {h : Host} {base path : Path} {raw text entry : String} {piece : List Char}
  {pieces : List (List Char)} {entries : List String} {items : List Xml.Element}
  {requirements : List Requirement} {m : Manifest} {found : Sections}

/-- A search path is a piece of a text that holds a macro, without the blanks around it, or an
absolute path in normal form. -/
def IsSearchPath (raw entry : String) : Prop :=
  (∃ piece ∈ Path.splitChars ';' raw.toList, entry.toList = Text.trimBlank piece ∧
    ['$', '('] <:+: entry.toList) ∨
  ∃ p : Path, p.Spelled ∧ entry = p.toString

/-- The text of a list of search paths in a document. -/
def Sections.listText (found : Sections) (tag : String) : String :=
  Xml.childValue (found.options.bind (·.child? "SearchPaths")) tag "Value"

/-- The name of the package that an item names. -/
def packageName (item : Xml.Element) : String := Xml.childValue (some item) "PackageName" "Value"

/-- An item of a requirements section names a package. -/
def isRequired (item : Xml.Element) : Bool :=
  "Item".toList.isPrefixOf item.tag.toList && !(packageName item).isEmpty

/-- The children of the requirements section. -/
def Sections.requirementItems (found : Sections) : List Xml.Element :=
  (found.required.map (·.children)).getD []

/-- The shape of the data of a document in a file. -/
structure WellShaped (path : Path) (found : Sections) (m : Manifest) : Prop where
  name : m.name ≠ ""
  directory : m.directory = path.parent.toString
  firstUnit : m.paths.units.head? = some m.directory
  firstInclude : m.paths.includes.head? = some m.directory
  units : ∀ entry ∈ m.paths.units, IsSearchPath (found.listText "OtherUnitFiles") entry
  includes : ∀ entry ∈ m.paths.includes, IsSearchPath (found.listText "IncludeFiles") entry
  sources : ∀ entry ∈ m.paths.sources, IsSearchPath (found.listText "SrcPath") entry
  requirements :
    m.requirements.map (·.name) = (found.requirementItems.filter isRequired).map packageName
  requirementNames : ∀ q ∈ m.requirements, q.name ≠ ""
  hints : ∀ q ∈ m.requirements, IsHint q.hint

theorem hasMacro_iff {cs : List Char} : hasMacro cs = true ↔ ['$', '('] <:+: cs := by
  induction cs using hasMacro.induct with
  | case1 rest => exact ⟨fun _ => ⟨[], rest, rfl⟩, fun _ => rfl⟩
  | case2 c rest hne ih =>
    have hnot : ¬ ['$', '('] <+: c :: rest := by
      rintro ⟨tail, htail⟩
      obtain ⟨rfl, hrest⟩ := List.cons.inj htail
      exact hne tail rfl hrest.symm
    rw [hasMacro, ih, List.infix_cons_iff, or_iff_right hnot]
    exact hne
  | case3 => simp [hasMacro]

theorem isSearchPath_of_searchEntry (hh : h.Regular) (hbase : base.Spelled)
    (hpiece : piece ∈ Path.splitChars ';' raw.toList)
    (hok : searchEntry h base piece = .ok (some entry)) : IsSearchPath raw entry := by
  unfold searchEntry at hok
  dsimp only at hok
  split at hok
  · cases hok
  · split at hok
    · next hmacro =>
      obtain rfl := Option.some.inj (Except.ok.inj hok)
      have htext : (String.ofList (Text.trimBlank piece)).toList = Text.trimBlank piece :=
        String.toList_ofList
      refine .inl ⟨piece, hpiece, htext, ?_⟩
      rw [htext]
      exact hasMacro_iff.1 hmacro
    · obtain ⟨p, hp, hok⟩ := bind_eq_ok_iff.1 hok
      obtain rfl := Option.some.inj (Except.ok.inj hok)
      refine .inr ⟨p, spelled_of_resolve hh (fun part hpart => ?_) hp, rfl⟩
      exact (Path.mem_parts_child hpart).elim (fun hown => (hbase.names part hown).noSlash)
        Path.IsPart.noSlash

theorem isSearchPath_of_searchEntries (hh : h.Regular) (hbase : base.Spelled)
    (hpieces : ∀ piece ∈ pieces, piece ∈ Path.splitChars ';' raw.toList)
    (hok : searchEntries h base pieces = .ok entries) :
    ∀ entry ∈ entries, IsSearchPath raw entry := by
  induction pieces generalizing entries with
  | nil =>
    obtain rfl := Except.ok.inj hok
    exact List.forall_mem_nil _
  | cons piece rest ih =>
    obtain ⟨hpiece, hrest⟩ := List.forall_mem_cons.1 hpieces
    obtain ⟨first, hfirst, hok⟩ := bind_eq_ok_iff.1 hok
    obtain ⟨others, hothers, hok⟩ := bind_eq_ok_iff.1 hok
    obtain rfl := Except.ok.inj hok
    intro entry hentry
    obtain hentry | hentry := List.mem_append.1 hentry
    · obtain rfl := Option.mem_toList.1 hentry
      exact isSearchPath_of_searchEntry hh hbase hpiece hfirst
    · exact ih hrest hothers entry hentry

theorem isSearchPath_of_splitSearchPath (hh : h.Regular) (hbase : base.Spelled)
    (hok : splitSearchPath h base raw = .ok entries) :
    ∀ entry ∈ entries, IsSearchPath raw entry :=
  isSearchPath_of_searchEntries hh hbase (fun _ hpiece => hpiece) hok

theorem map_name_of_readRequirement {item : Xml.Element} {first : Option Requirement}
    (hok : readRequirement h base item = .ok first) :
    first.map (·.name) = if isRequired item then some (packageName item) else none := by
  have hcases : (!"Item".toList.isPrefixOf item.tag.toList || (packageName item).isEmpty) =
      !isRequired item := by
    rw [isRequired, Bool.not_and, Bool.not_not]
  unfold readRequirement at hok
  dsimp only at hok
  rw [← packageName, hcases] at hok
  cases hitem : isRequired item with
  | true =>
    rw [hitem, Bool.not_true, if_neg Bool.false_ne_true] at hok
    obtain ⟨hint, -, hok⟩ := bind_eq_ok_iff.1 hok
    obtain rfl := Except.ok.inj hok
    rfl
  | false =>
    rw [hitem, Bool.not_false, if_pos rfl] at hok
    obtain rfl := Except.ok.inj hok
    rfl

/-- The requirements of a section are those of its items that name a package, in their order. -/
theorem map_name_of_readRequirements (hok : readRequirements h base items = .ok requirements) :
    requirements.map (·.name) = (items.filter isRequired).map packageName := by
  induction items generalizing requirements with
  | nil =>
    obtain rfl := Except.ok.inj hok
    rfl
  | cons item rest ih =>
    obtain ⟨first, hfirst, hok⟩ := bind_eq_ok_iff.1 hok
    obtain ⟨others, hothers, hok⟩ := bind_eq_ok_iff.1 hok
    obtain rfl := Except.ok.inj hok
    have hname := map_name_of_readRequirement hfirst
    rw [List.map_append, ih hothers, ← Option.toList_map, hname]
    cases hitem : isRequired item with
    | true =>
      rw [List.filter_cons_of_pos hitem]
      rfl
    | false =>
      rw [List.filter_cons_of_neg (Bool.eq_false_iff.1 hitem)]
      rfl

theorem name_ne_empty_of_readRequirements
    (hok : readRequirements h base items = .ok requirements) :
    ∀ q ∈ requirements, q.name ≠ "" := by
  intro q hq
  have hname : q.name ∈ (items.filter isRequired).map packageName :=
    map_name_of_readRequirements hok ▸ List.mem_map_of_mem hq
  obtain ⟨item, hitem, heq⟩ := List.mem_map.1 hname
  obtain ⟨-, hnonempty⟩ := Bool.and_eq_true_iff.1 (List.mem_filter.1 hitem).2
  rw [← heq]
  simpa using hnonempty

theorem extension_ne_empty {root : Xml.Element}
    (hfound : sections (ManifestKind.ofExtension path.extension) root = .ok found) :
    path.extension ≠ "" := by
  intro hempty
  rw [hempty] at hfound
  cases hfound

theorem wellShaped_of_ofDocument {root : Xml.Element} (hh : h.Regular) (ht : h.tree.WellFormed)
    (hpath : path.Spelled) (hok : ofDocument h path root = .ok m) :
    ∃ found, sections (ManifestKind.ofExtension path.extension) root = .ok found ∧
      m.WellShaped path found := by
  obtain ⟨found, hfound, hname, hdirectory, hpaths, hrequirements⟩ := exists_sections hok
  have hbase := hpath.parent
  obtain ⟨includes, hincludes, hpaths⟩ := bind_eq_ok_iff.1 hpaths
  obtain ⟨units, hunits, hpaths⟩ := bind_eq_ok_iff.1 hpaths
  obtain ⟨sources, hsources, hpaths⟩ := bind_eq_ok_iff.1 hpaths
  have hpaths := (Except.ok.inj hpaths).symm
  have hown (raw : String) : IsSearchPath raw path.parent.toString := .inr ⟨_, hbase, rfl⟩
  refine ⟨found, hfound, ?_, hdirectory, ?_, ?_, ?_, ?_, ?_, ?_, ?_, ?_⟩
  · rw [hname]
    split
    · exact Path.stem_ne_empty (extension_ne_empty hfound)
    · next hne => simpa using hne
  · rw [hpaths, hdirectory, List.head?_cons]
  · rw [hpaths, hdirectory, List.head?_cons]
  · rw [hpaths]
    exact List.forall_mem_cons.2 ⟨hown _, isSearchPath_of_splitSearchPath hh hbase hunits⟩
  · rw [hpaths]
    exact List.forall_mem_cons.2 ⟨hown _, isSearchPath_of_splitSearchPath hh hbase hincludes⟩
  · rw [hpaths]
    exact isSearchPath_of_splitSearchPath hh hbase hsources
  · exact map_name_of_readRequirements hrequirements
  · exact name_ne_empty_of_readRequirements hrequirements
  · exact isHint_of_readRequirements hh ht (fun part hpart => (hbase.names part hpart).noSlash)
      hrequirements

end Manifest

end PascalWorkspace
