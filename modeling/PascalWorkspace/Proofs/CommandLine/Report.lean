import PascalWorkspace.CommandLine.Run
import PascalWorkspace.Proofs.Console.Table
import PascalWorkspace.Proofs.Entries
import PascalWorkspace.Proofs.Operation

/-! The two reports of a scan, as a document and as a table. What a block of lines in the table shows
is what the document says of a package, as long as no text in it is taken for a mark. -/
namespace PascalWorkspace.CommandLine

open Console

/-- What both reports tell of a package. -/
structure Row where
  name : String
  /-- The names of the packages needed, each with whether the package was found. -/
  dependencies : List (String × Bool)
  units : List String
  includes : List String

variable {p : Package} {d : Dependency} {r : Registry} {root : Path} {row : Row}
  {members : Json.Members} {name : Text.Wide} {value : Json.Value}

def Row.ofPackage (p : Package) : Row where
  name := p.name
  dependencies := p.dependencies.map fun d => (d.name, d.isResolved)
  units := p.mergedPaths.units
  includes := p.mergedPaths.includes

/-! ### The document -/

theorem putMember_eq (members : Json.Members) (name : Text.Wide) (value : Json.Value) :
    putMember members name value = Entries.upsert members name fun _ => value := rfl

/-- An object names every dependency once, in the order of the first of each name, and has no target
exactly for those that were not found. Of several dependencies of one name the last one counts. -/
structure TellsTargets (targets : Json.Members) (dependencies : List (Text.Wide × Bool)) : Prop where
  nodup : (targets.map (·.1)).Nodup
  order : (targets.map (·.1)).Sublist (dependencies.map (·.1))
  named : ∀ name, name ∈ targets.map (·.1) ↔ name ∈ dependencies.map (·.1)
  missing : ∀ early name found late, dependencies = early ++ (name, found) :: late →
    name ∉ late.map (·.1) → ∃ value, targets.lookup name = some value ∧
      (value = .null ↔ found = false)

theorem targetValue_eq_null : targetValue d = .null ↔ d.isResolved = false := by
  unfold targetValue Dependency.isResolved
  cases d.target <;> simp

theorem tells_dependencyMembers (p : Package) :
    TellsTargets (dependencyMembers p)
      (p.dependencies.map fun d => (.plain d.name, d.isResolved)) := by
  unfold dependencyMembers
  induction p.dependencies using List.reverseRecOn with
  | nil => exact ⟨List.nodup_nil, List.Sublist.refl _, fun _ => Iff.rfl, by simp⟩
  | append_singleton dependencies d ih =>
    rw [List.foldl_append, List.foldl_cons, List.foldl_nil, List.map_append, putMember_eq]
    refine ⟨Entries.nodup_upsert ih.nodup, ?_, fun name => ?_, ?_⟩
    · rw [Entries.keys_upsert, List.map_append]
      split
      · exact ih.order.trans (List.sublist_append_left _ _)
      · exact ih.order.append (List.Sublist.refl _)
    · rw [Entries.mem_keys_upsert, ih.named, List.map_append, List.mem_append]
      simp
    · intro early name found late hsplit hlate
      rw [Entries.lookup_upsert]
      obtain rfl | ⟨between, last, rfl⟩ := List.eq_nil_or_concat late
      · obtain ⟨-, hlast⟩ := List.append_inj' hsplit rfl
        obtain ⟨rfl, rfl⟩ := Prod.mk.inj (List.singleton_inj.1 hlast)
        exact ⟨_, if_pos rfl, targetValue_eq_null⟩
      · rw [List.concat_eq_append] at hsplit hlate
        rw [← List.cons_append, ← List.append_assoc] at hsplit
        obtain ⟨hdependencies, hlast⟩ := List.append_inj' hsplit rfl
        obtain rfl := List.singleton_inj.1 hlast
        rw [List.map_append, List.mem_append, not_or] at hlate
        rw [if_neg (by simpa using hlate.2)]
        exact ih.missing early name found between hdependencies hlate.1

/-- A member of a document tells of a package. -/
structure Tells (members : Json.Members) (row : Row) : Prop where
  name : Json.Value.member members "name" = .text row.name
  dependencies : ∃ targets, Json.Value.member members "dependencies" = .object targets ∧
    TellsTargets targets (row.dependencies.map fun d => (.plain d.1, d.2))
  units : Json.Value.member members "unit_path" = .texts row.units
  includes : Json.Value.member members "include_path" = .texts row.includes

/-- The members of what the document says of a package. -/
def packageMembers (p : Package) : Json.Members := [
  ("name", .text p.name),
  ("manifest", .text p.manifest),
  ("dependencies", .object (dependencyMembers p)),
  ("unit_path", .texts p.mergedPaths.units),
  ("include_path", .texts p.mergedPaths.includes),
  ("src_path", .texts p.mergedPaths.sources)]

theorem tells_packageMembers (p : Package) : Tells (packageMembers p) (.ofPackage p) := by
  refine ⟨rfl, ⟨_, rfl, ?_⟩, rfl, rfl⟩
  have htargets := tells_dependencyMembers p
  rwa [Row.ofPackage, List.map_map]

/-! ### The table -/

/-- How the name of a dependency is shown. -/
def shownDependency (d : String × Bool) : String := if d.2 then d.1 else d.1 ++ " (missing)"

/-- The texts of a row. -/
def Row.texts (row : Row) : List String :=
  row.name :: (row.dependencies.map (·.1) ++ (row.units ++ row.includes))

/-- What the cells of a row show. -/
def Row.cellTexts (row : Row) : List String :=
  let dependencies := joinLines (row.dependencies.map shownDependency)
  [row.name, if dependencies.isEmpty then "-" else dependencies, joinLines row.units,
    joinLines row.includes]

/-- The lines of a row, as they stand in the table. -/
def Row.lines (row : Row) : List (List String) := Table.rowLines (row.cellTexts.map plainLines)

/-- Nothing in a row is taken for a mark: there is no tag in a cell, and no text names a picture or
holds a bracket behind a backslash or a character that a terminal acts upon. -/
structure Row.Unmarked (row : Row) : Prop where
  plain : ∀ text ∈ row.texts, Plain text.toList
  untagged : ∀ text ∈ row.cellTexts, Markup.Untagged text.toList []

theorem toList_joinLines (lines : List String) :
    (joinLines lines).toList = ['\n'].intercalate (lines.map String.toList) :=
  String.toList_intercalate

theorem plain_joinLines {lines : List String} (h : ∀ line ∈ lines, Plain line.toList) :
    Plain (joinLines lines).toList := by
  rw [toList_joinLines]
  exact plain_intercalate (List.forall_mem_map.2 h)

/-- A dependency as a line, in red if it is missing. -/
def dependencyLine (d : Dependency) : Line :=
  ((shownDependency (d.name, d.isResolved)).toList, !d.isResolved)

theorem toList_dependencyCell (d : Dependency) :
    (dependencyCell d).toList = markLine "red".toList (dependencyLine d) := by
  have hcell : dependencyCell d =
      if d.isResolved then d.name else "[red]" ++ d.name ++ " (missing)[/red]" := rfl
  rw [hcell]
  unfold dependencyLine markLine shownDependency
  cases d.isResolved <;> simp

theorem plain_dependencyLine (h : Plain d.name.toList) : (dependencyLine d).Plain := by
  have hnote : Plain "(missing)".toList := by decide
  unfold dependencyLine shownDependency Line.Plain
  cases d.isResolved with
  | true => exact ⟨h, nofun⟩
  | false =>
    have hline : (d.name ++ " (missing)").toList = d.name.toList ++ ' ' :: "(missing)".toList :=
      String.toList_append
    dsimp only
    rw [if_neg Bool.false_ne_true, hline]
    exact ⟨h.append hnote (.inl rfl), fun _ => by simp⟩

theorem joinLines_dependencyCells (dependencies : List Dependency) :
    joinLines (dependencies.map dependencyCell) =
      String.ofList (markedText "red".toList (dependencies.map dependencyLine)) := by
  rw [← String.toList_inj, String.toList_ofList, toList_joinLines, markedText, List.map_map,
    List.map_map]
  simp only [Function.comp_def, toList_dependencyCell]

theorem joinLines_shownDependencies (p : Package) :
    joinLines ((Row.ofPackage p).dependencies.map shownDependency) =
      String.ofList (shownText (p.dependencies.map dependencyLine)) := by
  rw [← String.toList_inj, String.toList_ofList, toList_joinLines, shownText, Row.ofPackage,
    List.map_map, List.map_map, List.map_map]
  rfl

theorem isEmpty_joinLines {first next : String} {others : List String} :
    (joinLines (first :: next :: others)).isEmpty = false := by
  refine Bool.eq_false_iff.2 fun hempty => ?_
  have hlist := congrArg String.toList (String.isEmpty_iff.1 hempty)
  rw [toList_joinLines, List.map_cons, List.map_cons, List.intercalate_cons_cons] at hlist
  simp at hlist

/-- The cell of the dependencies is empty with and without marks. -/
theorem isEmpty_dependencies (p : Package) :
    (joinLines (p.dependencies.map dependencyCell)).isEmpty =
      (joinLines ((Row.ofPackage p).dependencies.map shownDependency)).isEmpty := by
  unfold Row.ofPackage
  rw [List.map_map]
  rcases p.dependencies with _ | ⟨d, _ | ⟨e, others⟩⟩
  · rfl
  · have hjoin (line : String) : joinLines [line] = line := String.intercalate_singleton
    rw [List.map_singleton, List.map_singleton, hjoin, hjoin]
    unfold dependencyCell shownDependency
    dsimp only [Function.comp]
    by_cases hd : d.isResolved = true
    · rw [if_pos hd, if_pos hd]
    · have hnote (text note : String) (hnote : note.toList ≠ []) :
          (text ++ note).isEmpty = false := Bool.eq_false_iff.2 fun hempty => by
        have hlist := congrArg String.toList (String.isEmpty_iff.1 hempty)
        rw [String.toList_append] at hlist
        exact hnote (List.append_eq_nil_iff.1 hlist).2
      rw [if_neg hd, if_neg hd]
      exact (hnote _ _ (by decide)).trans (hnote _ _ (by decide)).symm
  · exact isEmpty_joinLines.trans isEmpty_joinLines.symm

section Unmarked

variable (h : (Row.ofPackage p).Unmarked)
include h

theorem plain_dependencies : ∀ d ∈ p.dependencies, Plain d.name.toList := by
  refine fun d hd => h.plain _ (List.mem_cons_of_mem _ (List.mem_append_left _ ?_))
  rw [Row.ofPackage, List.map_map]
  exact List.mem_map_of_mem hd

/-- The cell of the dependencies shows their names. -/
theorem cellLines_dependencies :
    let dependencies := joinLines (p.dependencies.map dependencyCell)
    let shown := joinLines ((Row.ofPackage p).dependencies.map shownDependency)
    Table.cellLines (if dependencies.isEmpty then "-" else dependencies) =
      .ok (plainLines (if shown.isEmpty then "-" else shown)) := by
  intro dependencies shown
  have hlines : ∀ line ∈ p.dependencies.map dependencyLine, line.Plain :=
    List.forall_mem_map.2 fun d hd => plain_dependencyLine (plain_dependencies h d hd)
  have htags := h.untagged _ (List.mem_cons_of_mem _ List.mem_cons_self)
  dsimp only [dependencies, shown]
  rw [isEmpty_dependencies]
  split at htags
  · next hempty =>
    rw [if_pos hempty, if_pos hempty]
    exact Table.cellLines_of_unmarked (by decide)
  · next hsome =>
    rw [if_neg hsome, if_neg hsome]
    rw [joinLines_shownDependencies, String.toList_ofList] at htags
    rw [joinLines_dependencyCells, joinLines_shownDependencies]
    refine Table.cellLines_of_render
      (render_lines (Markup.isStyle_of_mem (by decide)) hlines htags) fun htab => ?_
    rw [String.toList_ofList] at htab
    exact ((plain_shownText hlines).controls _ htab).2 rfl

/-- The cells of a row without marks are shown as they are. -/
theorem showsCells_packageRow :
    Table.ShowsCells (packageRow p) ((Row.ofPackage p).cellTexts.map plainLines) := by
  obtain ⟨hname, htexts⟩ := List.forall_mem_cons.1 h.plain
  obtain ⟨-, htexts⟩ := List.forall_mem_append.1 htexts
  obtain ⟨hunits, hincludes⟩ := List.forall_mem_append.1 htexts
  obtain ⟨hnameTags, htags⟩ := List.forall_mem_cons.1 h.untagged
  obtain ⟨-, htags⟩ := List.forall_mem_cons.1 htags
  obtain ⟨hunitTags, htags⟩ := List.forall_mem_cons.1 htags
  obtain ⟨hincludeTags, -⟩ := List.forall_mem_cons.1 htags
  exact .cons (Table.cellLines_of_unmarked ⟨hname, hnameTags⟩)
    (.cons (cellLines_dependencies h)
      (.cons (Table.cellLines_of_unmarked ⟨plain_joinLines hunits, hunitTags⟩)
        (.cons (Table.cellLines_of_unmarked ⟨plain_joinLines hincludes, hincludeTags⟩) .nil)))

end Unmarked

/-- What the line below the table shows, for so many missing dependencies. -/
def summaryText : Nat → String
  | 0 => "All dependencies resolved."
  | n => s!"{n} unresolved dependency(ies)"

theorem not_mem_digits {c : Char} (n : Nat) (hc : c.isDigit = false) : c ∉ n.repr.toList := by
  rw [Nat.toList_repr]
  intro hmem
  have hdigit := Nat.isDigit_of_mem_toDigits (by decide) (by decide) hmem
  exact Bool.false_ne_true (hc.symm.trans hdigit)

theorem plain_digits (n : Nat) : Plain n.repr.toList := by
  refine plain_of_notMem (not_mem_digits n (by decide)) (not_mem_digits n (by decide))
    fun c hmem => ⟨Bool.eq_false_iff.2 fun hcontrol => ?_, fun htab => ?_⟩
  · have hcontrols : ∀ d ∈ ['\x07', '\x08', '\x0b', '\x0c', '\r'], d.isDigit = false := by simp
    exact not_mem_digits n (hcontrols c (List.contains_iff_mem.1 hcontrol)) hmem
  · exact not_mem_digits n (by decide) (htab ▸ hmem)

/-- A line in a style is shown as it is. -/
theorem render_styled {color line markup : String} (hcolor : color ∈ ["red", "yellow", "green"])
    (hline : Console.Unmarked line.toList) (hlast : line.toList.getLast? ≠ some '\\')
    (hmarkup : markup.toList = markLine color.toList (line.toList, true)) :
    Console.render markup = .ok line := by
  have hlines : ∀ l ∈ ([(line.toList, true)] : List Line), l.Plain :=
    List.forall_mem_singleton.2 ⟨hline.toPlain, fun _ => hlast⟩
  have hshown : shownText [(line.toList, true)] = line.toList := List.intercalate_singleton
  have hmarked : markedText color.toList [(line.toList, true)] = markup.toList :=
    List.intercalate_singleton.trans hmarkup.symm
  have htags : Markup.Untagged (shownText [(line.toList, true)]) [] := by
    rw [hshown]
    exact hline.untagged
  have hrender := render_lines (Markup.isStyle_of_mem hcolor) hlines htags
  rwa [hmarked, hshown, String.ofList_toList, String.ofList_toList] at hrender

/-- The line below the table is always shown. -/
theorem render_summary (r : Registry) :
    Console.render (summary r) = .ok (summaryText r.unresolved.length) := by
  unfold summary summaryText
  cases r.unresolved.length with
  | zero =>
    have hmarkup : "[green]All dependencies resolved.[/green]".toList =
        markLine "green".toList ("All dependencies resolved.".toList, true) := by decide
    exact render_styled (by decide) (by decide) (by decide) hmarkup
  | succ n =>
    let line := (n + 1).repr ++ " unresolved dependency(ies)"
    let note := "unresolved dependency(ies)".toList
    have hline : line.toList = (n + 1).repr.toList ++ ' ' :: note := String.toList_append
    have hnote : Plain note := by decide
    have hbracket : '[' ∉ (n + 1).repr.toList ++ ' ' :: note := fun hmem =>
      (List.mem_append.1 hmem).elim (not_mem_digits _ (by decide)) (by decide)
    have hunmarked : Console.Unmarked line.toList := by
      rw [hline]
      exact ⟨(plain_digits _).append hnote (.inl rfl), Markup.untagged_of_notMem hbracket⟩
    have hlast : line.toList.getLast? ≠ some '\\' := by
      rw [hline]
      simp [note]
    have hmarkup : ("[yellow]" ++ (n + 1).repr ++ " unresolved dependency(ies)[/yellow]").toList =
        markLine "yellow".toList (line.toList, true) := by
      simp [markLine, line]
    exact render_styled (by decide) hunmarked hlast hmarkup

/-- What is printed of a scan as a document. -/
def documentText (root : Path) (r : Registry) : String :=
  Json.write Json.Style.block (scanValue root r) ++ "\n"

/-- The result of a scan as a table. -/
def tableResult (root : Path) (r : Registry) : Except MarkupFault Output := do
  let table ← (scanTable root r).render
  return .table table (← Console.render (summary r))

/-- The result of a scan, as the document or as the table. -/
def reportResult (root : Path) (r : Registry) (json : Bool) : Except Failure Output :=
  if json then .ok (.text (documentText root r))
  else (tableResult root r).mapError Failure.brokenMarkup

section Outcome

variable {h : Host} {text : String} {json : Bool} {settings : WorkspaceSettings}
  {s s₁ s₂ t : Session} {output : Output}

theorem outcome_scan_of_parts
    (hroot : Operation.outcome (ofPathResult (h.resolve (Path.ofString text))) s = (.ok root, s₁))
    (hsettings : Operation.outcome (WorkspaceSettings.load h root) s₁ = (.ok settings, s₂))
    (hscan : Operation.outcome (Session.scan h (.ofHost h) root)
      { s₂ with root := some root, settings } = (.ok (), t)) :
    Operation.outcome (scan h text json) s = (reportResult root t.workspace.registry json, t) := by
  rw [scan, Operation.outcome_bind_ok _ hroot, Operation.outcome_bind_ok _ hsettings,
    Operation.outcome_bind, Operation.outcome_modify]
  dsimp only
  rw [Operation.outcome_bind_ok _ hscan, Operation.outcome_bind, Operation.outcome_get]
  dsimp only
  cases json with
  | true => rfl
  | false =>
    rw [if_neg Bool.false_ne_true, reportResult, if_neg Bool.false_ne_true, tableResult]
    cases (scanTable root t.workspace.registry).render with
    | error fault => rfl
    | ok table =>
      rw [render_summary]
      rfl

/-- Where the document is printed, the table is made of the same packages. -/
theorem outcome_scan (hok : Operation.outcome (scan h text true) s = (.ok output, t)) :
    ∃ root, ∀ json, Operation.outcome (scan h text json) s =
      (reportResult root t.workspace.registry json, t) := by
  obtain ⟨root, s₁, hroot, hrest⟩ := Operation.outcome_bind_eq_ok hok
  obtain ⟨settings, s₂, hsettings, hrest⟩ := Operation.outcome_bind_eq_ok hrest
  obtain ⟨_, s₃, hmodify, hrest⟩ := Operation.outcome_bind_eq_ok hrest
  obtain ⟨-, rfl⟩ := Prod.mk.inj hmodify
  obtain ⟨_, s₄, hscan, hrest⟩ := Operation.outcome_bind_eq_ok hrest
  obtain ⟨-, rfl⟩ := Prod.mk.inj (show (Except.ok _, s₄) = (Except.ok output, t) from hrest)
  exact ⟨root, fun json => outcome_scan_of_parts hroot hsettings hscan⟩

end Outcome

/-- A block of lines shows a row, if no text of the row is taken for a mark. -/
def Shows (row : Row) (block : List (List String)) : Prop := row.Unmarked → block = row.lines

def tableHeader : List String := ["Package", "Dependencies", "Unit path", "Include path"]

theorem render_header : tableHeader.mapM Console.render = .ok tableHeader := by
  have hunmarked : ∀ text ∈ tableHeader, Console.Unmarked text.toList := by decide
  have hsame : List.Forall₂ (fun a b => Console.render a = .ok b) tableHeader tableHeader :=
    List.forall₂_same.2 fun text htext => render_of_unmarked (hunmarked text htext)
  exact mapM_eq_ok_iff.2 hsame

theorem length_packageRow : ∀ cells ∈ (scanTable root r).rows,
    cells.length = (scanTable root r).header.length :=
  List.forall_mem_map.2 fun _ _ => rfl

/-- A table has a block of lines for each package. -/
theorem exists_blocks_of_render {shown : ShownTable}
    (h : (scanTable root r).render = .ok shown) : shown.header = tableHeader ∧ ∃ blocks,
      shown.lines = blocks.flatten ∧
        List.Forall₂ Shows ((sortedPackages r).map Row.ofPackage) blocks := by
  obtain ⟨hheader, rows, hrows, hlines⟩ := Table.exists_rows_of_render length_packageRow h
  refine ⟨Except.ok.inj (hheader.symm.trans render_header), rows.map Table.rowLines,
    hlines.trans List.flatMap_def, ?_⟩
  rw [List.forall₂_map_left_iff, List.forall₂_map_right_iff]
  have hrows : List.Forall₂ Table.ShowsCells ((sortedPackages r).map packageRow) rows := hrows
  rw [List.forall₂_map_left_iff] at hrows
  refine hrows.imp fun p cells hcells hunmarked => ?_
  rw [hcells.unique (showsCells_packageRow hunmarked), Row.lines]

/-- A table without marks is shown. -/
theorem exists_render_scanTable (hroot : Console.Unmarked root.toString.toList)
    (hrows : ∀ p ∈ sortedPackages r, (Row.ofPackage p).Unmarked) :
    ∃ shown, (scanTable root r).render = .ok shown := by
  have htitle : Console.Unmarked (scanTable root r).title.toList := by
    let start := "Packages under".toList
    have hsplit : (scanTable root r).title.toList = start ++ ' ' :: root.toString.toList :=
      String.toList_append
    have hstart : Plain start := by decide
    rw [hsplit]
    refine ⟨hstart.append hroot.toPlain (.inl rfl), ?_⟩
    rw [List.append_cons, Markup.untagged_append]
    exact ⟨Markup.untagged_of_notMem (by decide), hroot.untagged⟩
  exact Table.exists_render length_packageRow ⟨_, render_header⟩
    ⟨_, Table.cellLines_of_unmarked htitle⟩
    (List.forall_mem_map.2 fun p hp => ⟨_, showsCells_packageRow (hrows p hp)⟩)

end PascalWorkspace.CommandLine
