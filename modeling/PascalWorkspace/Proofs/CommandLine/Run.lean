import Mathlib.Data.List.Forall2
import PascalWorkspace.Proofs.CommandLine.Report
import PascalWorkspace.Proofs.Manifest.Congruence
import PascalWorkspace.Proofs.Session.Lone
import PascalWorkspace.Proofs.Session.Success

/-! Runs of the command. A scan of a workspace gives the same report as a document and as a table, as
long as no text in it is taken for a mark. -/
namespace PascalWorkspace.CommandLine

open Console FileTree Host

theorem eq_ok_of_outcome {least : Level} {result : Except Failure Output} {t : Session}
    {output : Output} {log : String} (h : outcome least (result, t) = .finished 0 output log) :
    result = .ok output := by
  unfold outcome at h
  cases result with
  | ok printed => exact congrArg Except.ok (Outcome.finished.inj h).2.1
  | error failure => cases failure <;> cases h

/-- A command that ends well is one that was begun. -/
theorem checked_eq_finished {check : RootCheck} {least : Level} {act : Operation Session Output}
    {output : Output} {log : String} (h : checked check least act = .finished 0 output log) :
    check = .accepted ∧ ∃ t, Operation.outcome act {} = (.ok output, t) := by
  cases check with
  | rejected => cases h
  | failed e => cases h
  | accepted => exact ⟨rfl, (Operation.outcome act {}).2, Prod.ext (eq_ok_of_outcome h) rfl⟩

/-- A scan without the document ends well with its table, or its marks are broken. -/
theorem outcome_table (least : Level) (root : Path) (t : Session) :
    let r := t.workspace.registry
    let log := diagnostics t.workspace.log least
    (∃ shown, (scanTable root r).render = .ok shown ∧
      outcome least (reportResult root r false, t) =
        .finished 0 (.table shown (summaryText r.unresolved.length)) log) ∨
    ∃ fault, (scanTable root r).render = .error fault ∧
      outcome least (reportResult root r false, t) = .failed (.brokenMarkup fault) log := by
  dsimp only
  rw [reportResult, if_neg Bool.false_ne_true, tableResult]
  cases (scanTable root t.workspace.registry).render with
  | error fault => exact .inr ⟨fault, rfl, rfl⟩
  | ok shown =>
    refine .inl ⟨shown, rfl, ?_⟩
    rw [render_summary]
    rfl

/-- What is printed for a document, and the outcome of the same scan without it. Both have the same
rows, and the table is shown unless its marks are broken. -/
structure SameReport (place : String) (entries : List Json.Members)
    (missing : List Json.Value) (rows : List Row) (output : Output) (other : Outcome) : Prop where
  document : output = .text (Json.write Json.Style.block (.object [("root", .text place),
    ("packages", .array (entries.map .object)), ("unresolved", .array missing)]) ++ "\n")
  tells : List.Forall₂ Tells entries rows
  /-- There is one block of lines for each row, in the same order. -/
  shows : (∃ fault log, other = .failed (.brokenMarkup fault) log) ∨
    ∃ shown blocks log, other = .finished 0 (.table shown (summaryText missing.length)) log ∧
      shown.header = tableHeader ∧ shown.lines = blocks.flatten ∧ List.Forall₂ Shows rows blocks
  unbroken : Console.Unmarked place.toList → (∀ row ∈ rows, row.Unmarked) →
    ∀ fault log, other ≠ .failed (.brokenMarkup fault) log

theorem sameReport (least : Level) (root : Path) (t : Session) :
    let packages := sortedPackages t.workspace.registry
    SameReport root.toString (packages.map packageMembers)
      (t.workspace.registry.unresolved.map unresolvedValue) (packages.map Row.ofPackage)
      (.text (documentText root t.workspace.registry))
      (outcome least (reportResult root t.workspace.registry false, t)) := by
  intro packages
  constructor
  case document =>
    rw [documentText, scanValue, List.map_map]
    rfl
  case tells =>
    rw [List.forall₂_map_left_iff, List.forall₂_map_right_iff]
    exact List.forall₂_same.2 fun p _ => tells_packageMembers p
  case shows =>
    rw [List.length_map]
    obtain ⟨shown, hshown, hfinished⟩ | ⟨fault, -, hfailed⟩ := outcome_table least root t
    · obtain ⟨hheader, blocks, hlines, hblocks⟩ := exists_blocks_of_render hshown
      exact .inr ⟨shown, blocks, _, hfinished, hheader, hlines, hblocks⟩
    · exact .inl ⟨fault, _, hfailed⟩
  case unbroken =>
    intro hplace hrows fault log hbroken
    obtain ⟨shown, hshown⟩ := exists_render_scanTable hplace (List.forall_mem_map.1 hrows)
    obtain ⟨_, -, hfinished⟩ | ⟨fault, hfault, -⟩ := outcome_table least root t
    · cases hfinished.symm.trans hbroken
    · cases hfault.symm.trans hshown

/-- Where a scan prints its document, the same scan without it shows the packages of the document
in a table, one block of lines for each and in the same order, or its marks are broken. If no text
is taken for a mark, the table is shown, and each block shows what the document says. -/
theorem table_tells_document (h : Host) (scratchFile text : String) (args args' : List String)
    (least least' : Level) (hargs : request? args = some (.run least (.scan text true)))
    (hargs' : request? args' = some (.run least' (.scan text false))) (output : Output)
    (log : String) (hrun : run h scratchFile args = .finished 0 output log) :
    ∃ place entries missing rows,
      SameReport place entries missing rows output (run h scratchFile args') := by
  rw [run, hargs] at hrun
  obtain ⟨haccepted, t, hok⟩ := checked_eq_finished hrun
  obtain ⟨root, hreport⟩ := outcome_scan hok
  obtain rfl : .text _ = output := Except.ok.inj (congrArg Prod.fst ((hreport true).symm.trans hok))
  have hother : run h scratchFile args' =
      outcome least' (reportResult root t.workspace.registry false, t) := by
    rw [run, hargs']
    dsimp only
    rw [haccepted, ← hreport false]
    rfl
  exact ⟨_, _, _, _, hother ▸ sameReport least' root t⟩

/-! ### A package with a mark in its name -/

/-- A package file that gives a name and nothing else. -/
def labelFile (name : String) : List UInt8 :=
  s!"<CONFIG><Package><Name Value='{name}'/></Package></CONFIG>".toList.map
    fun c => c.toNat.toUInt8

def labelDocument (name : String) : Xml.Element :=
  ⟨"CONFIG", [], [⟨"Package", [], [⟨"Name", [("Value", name)], []⟩]⟩]⟩

def labelManifest (name : String) : Manifest := ⟨name, "/w", ⟨["/w"], ["/w"], []⟩, []⟩

/-- A machine with one package. -/
def labelHost (content : List UInt8) : Host where
  tree := ⟨[(["w"], .directory), (["w", "a.lpk"], .file content)]⟩
  cwd := []
  environment := []
  homes := []

set_option maxRecDepth 20000 in
theorem parse_label : Xml.parse (labelFile "A") = .ok (labelDocument "A") ∧
    Xml.parse (labelFile "[/x]") = .ok (labelDocument "[/x]") := by
  constructor <;> cbv

theorem request?_scan : request? ["scan", "/w", "--json"] = some (.run .warning (.scan "/w" true)) ∧
    request? ["scan", "/w"] = some (.run .warning (.scan "/w" false)) := by
  constructor <;> cbv

section Content

variable (content : List UInt8)

theorem clean_label : Clean (labelHost content).tree ["w"] ∧
    Clean (labelHost content).tree ["w", "a.lpk"] := by
  have hroot : Clean (labelHost content).tree ["w"] := .child .root (by decide) nofun
  exact ⟨hroot, hroot.child (by decide) nofun⟩

theorem locate_label : (labelHost content).locate (pathOf ["w"]) = .ok ["w"] ∧
    (labelHost content).locate (pathOf ["w", "a.lpk"]) = .ok ["w", "a.lpk"] := by
  have hroot : (labelHost content).tree.entryAt ["w"] = some .directory := rfl
  have hfile : (labelHost content).tree.entryAt ["w", "a.lpk"] = some (.file content) := rfl
  have hway {rest : List String} {out : Location}
      (h : Follows (labelHost content).tree maxLinks ["w"] rest out) :
      Follows (labelHost content).tree maxLinks [] ("w" :: rest) out :=
    .enter rfl (by decide) (by decide) (by decide) hroot (by simp) h
  exact ⟨locate_eq_ok_iff.2 ⟨by decide, hway .done⟩, locate_eq_ok_iff.2
    ⟨by decide, hway (.enter hroot (by decide) (by decide) (by decide) hfile (by simp) .done)⟩⟩

theorem visits_label : Visit.all (labelHost content) [] (pathOf ["w"]) =
    [⟨pathOf ["w"], .ok [pathOf ["w", "a.lpk"]]⟩] := by
  obtain ⟨hroot, hpath⟩ := locate_label content
  have hnames : (labelHost content).childNames (pathOf ["w"]) = .ok ["a.lpk"] := by
    rw [Host.childNames, hroot]
    rfl
  exact Visit.all_of_only_child (by decide) hnames (by decide) hpath rfl (by decide)

theorem checkRoot_label : checkRoot (labelHost content) true "/w" = .accepted := by
  cbv

theorem load_label (s : Session) :
    Operation.outcome (WorkspaceSettings.load (labelHost content) (pathOf ["w"])) s = (.ok {}, s) := by
  have hlocate : (labelHost content).locate (WorkspaceSettings.fileIn (pathOf ["w"])) =
      .error (.refused .notFound (WorkspaceSettings.fileIn (pathOf ["w"])).toString) :=
    Host.locate_of_refused (by decide) (by cbv)
  have hfile : (labelHost content).isFileAt (WorkspaceSettings.fileIn (pathOf ["w"])) =
      .ok false := by
    rw [Host.isFileAt, if_neg (by decide), if_neg (by decide), Host.isFile, Host.test, Host.entry?,
      hlocate]
    rfl
  simp [WorkspaceSettings.load, Operation.outcome_bind, hfile]

theorem ofDocument_label : Manifest.ofDocument (labelHost content) (pathOf ["w", "a.lpk"])
      (labelDocument "A") = .ok (labelManifest "A") ∧
    Manifest.ofDocument (labelHost content) (pathOf ["w", "a.lpk"])
      (labelDocument "[/x]") = .ok (labelManifest "[/x]") := by
  constructor <;> cbv

end Content

/-- The only package, as a scan leaves it. -/
def labelPackage (name : String) : Package := Session.lonePackage "/w/a.lpk" (labelManifest name)

section Parsed

variable {content : List UInt8} {name : String}
  (hparse : Xml.parse content = .ok (labelDocument name))
  (hdocument : Manifest.ofDocument (labelHost content) (pathOf ["w", "a.lpk"])
    (labelDocument name) = .ok (labelManifest name))
include hparse hdocument

theorem readManifest_label :
    readManifest (labelHost content) (pathOf ["w", "a.lpk"]) = .ok (labelManifest name) := by
  have hfile : (labelHost content).readFile (pathOf ["w", "a.lpk"]) = .ok content := by
    rw [Host.readFile, Host.entry?, (locate_label content).2]
    rfl
  rw [readManifest_of_parse hfile hparse, hdocument]
  rfl

theorem scan_label (s : Session) (hs : s.workspace.registry = {})
    (hsettings : s.settings.ignoredNames = []) :
    ∃ t, Operation.outcome (Session.scan (labelHost content) (.ofHost (labelHost content))
        (pathOf ["w"])) s = (.ok (), t) ∧
      t.workspace.registry.packages = [labelPackage name] := by
  obtain ⟨hroot, hfile⟩ := clean_label content
  have hread : (ManifestSource.ofHost (labelHost content)).read "/w/a.lpk" =
      .ok (labelManifest name) := by
    have hpath : Path.ofString "/w/a.lpk" = pathOf ["w", "a.lpk"] := by decide
    exact (congrArg (readManifest (labelHost content)) hpath).trans
      (readManifest_label hparse hdocument)
  have hvisits : Visit.all (labelHost content) s.settings.ignoredNames (pathOf ["w"]) =
      [⟨pathOf ["w"], .ok [pathOf ["w", "a.lpk"]]⟩] := by
    rw [hsettings]
    exact visits_label content
  exact Session.scan_lone hvisits (canonical_pathOf hroot) (canonical_pathOf hfile) hread rfl hs

/-- The document is printed, and the table is made of the package. -/
theorem run_label : ∃ t log,
    run (labelHost content) "" ["scan", "/w", "--json"] =
        .finished 0 (.text (documentText (pathOf ["w"]) t.workspace.registry)) log ∧
      run (labelHost content) "" ["scan", "/w"] =
        outcome .warning (reportResult (pathOf ["w"]) t.workspace.registry false, t) ∧
      t.workspace.registry.packages = [labelPackage name] := by
  have hresolve : (labelHost content).resolve (Path.ofString "/w") = .ok (pathOf ["w"]) := by
    have hpath : Path.ofString "/w" = pathOf ["w"] := by decide
    exact hpath ▸ resolve_pathOf (clean_label content).1
  have hroot : Operation.outcome (ofPathResult ((labelHost content).resolve (Path.ofString "/w")))
      ({} : Session) = (.ok (pathOf ["w"]), {}) := by
    rw [hresolve, Operation.outcome_ofPathResult_ok]
  obtain ⟨t, hscan, hpackage⟩ :=
    scan_label hparse hdocument { root := some (pathOf ["w"]), settings := {} } rfl rfl
  have hreport (json : Bool) : checked (checkRoot (labelHost content) true "/w") .warning
        (scan (labelHost content) "/w" json) =
      outcome .warning (reportResult (pathOf ["w"]) t.workspace.registry json, t) := by
    rw [checkRoot_label, ← outcome_scan_of_parts hroot (load_label content {}) hscan]
    rfl
  refine ⟨t, diagnostics t.workspace.log .warning, ?_, ?_, hpackage⟩
  · rw [run, request?_scan.1]
    exact hreport true
  · rw [run, request?_scan.2]
    exact hreport false

end Parsed

theorem sortedPackages_label {r : Registry} {p : Package} (h : r.packages = [p]) :
    sortedPackages r = [p] := by
  rw [sortedPackages, h, List.mergeSort_singleton]

/-- A plain name is shown. -/
theorem table_tells_document_plain :
    let h := labelHost (labelFile "A")
    request? ["scan", "/w", "--json"] = some (.run .warning (.scan "/w" true)) ∧
      request? ["scan", "/w"] = some (.run .warning (.scan "/w" false)) ∧
      ∃ output log place entries missing rows shown log',
        run h "" ["scan", "/w", "--json"] = .finished 0 output log ∧
        SameReport place entries missing rows output (run h "" ["scan", "/w"]) ∧
        run h "" ["scan", "/w"] = .finished 0 (.table shown "All dependencies resolved.") log' ∧
        shown.lines = [["A", "-", "/w", "/w"]] := by
  intro h
  obtain ⟨hargs, hargs'⟩ := request?_scan
  obtain ⟨t, log, hdocument, htable, hpackage⟩ :=
    run_label parse_label.1 (ofDocument_label (labelFile "A")).1
  obtain ⟨place, entries, missing, rows, hsame⟩ :=
    table_tells_document h "" "/w" _ _ _ _ hargs hargs' _ _ hdocument
  have hpackages : sortedPackages t.workspace.registry = [labelPackage "A"] :=
    sortedPackages_label hpackage
  have hunmarked : (Row.ofPackage (labelPackage "A")).Unmarked :=
    ⟨by decide, by decide⟩
  have hrows : ∀ p ∈ sortedPackages t.workspace.registry, (Row.ofPackage p).Unmarked := by
    rw [hpackages]
    exact List.forall_mem_singleton.2 hunmarked
  have hroot : Console.Unmarked (pathOf ["w"]).toString.toList := by decide
  obtain ⟨_, hrender⟩ := exists_render_scanTable hroot hrows
  obtain ⟨shown, hshown, hfinished⟩ | ⟨fault, hfault, -⟩ := outcome_table .warning (pathOf ["w"]) t
  · obtain ⟨-, blocks, hlines, hblocks⟩ := exists_blocks_of_render hshown
    have hmissing : t.workspace.registry.unresolved.length = 0 := by
      rw [Registry.unresolved, hpackage]
      rfl
    rw [hmissing] at hfinished
    refine ⟨hargs, hargs', _, log, place, entries, missing, rows, shown, _, hdocument, hsame,
      htable.trans hfinished, ?_⟩
    rw [hpackages, List.map_singleton] at hblocks
    obtain ⟨block, others, hblock, hothers, rfl⟩ := List.forall₂_cons_left_iff.1 hblocks
    obtain rfl := List.forall₂_nil_left_iff.1 hothers
    rw [hlines, hblock hunmarked]
    decide
  · cases hfault.symm.trans hrender

/-- The document is printed and the table is not, since the name ends a mark that was not begun. -/
theorem table_broken_by_name :
    request? ["scan", "/w", "--json"] = some (.run .warning (.scan "/w" true)) ∧
      request? ["scan", "/w"] = some (.run .warning (.scan "/w" false)) ∧
      ∃ output log fault log',
        run (labelHost (labelFile "[/x]")) "" ["scan", "/w", "--json"] = .finished 0 output log ∧
        run (labelHost (labelFile "[/x]")) "" ["scan", "/w"] =
          .failed (.brokenMarkup fault) log' := by
  obtain ⟨t, log, hdocument, htable, hpackage⟩ :=
    run_label parse_label.2 (ofDocument_label (labelFile "[/x]")).2
  have hbroken : Console.render "[/x]" = .error .unopened := rfl
  obtain ⟨shown, hshown, -⟩ | ⟨fault, -, hfailed⟩ := outcome_table .warning (pathOf ["w"]) t
  · exfalso
    obtain ⟨-, rows, hrows, -⟩ := Table.exists_rows_of_render length_packageRow hshown
    have hrows : List.Forall₂ Table.ShowsCells
        ((sortedPackages t.workspace.registry).map packageRow) rows := hrows
    rw [sortedPackages_label hpackage, List.map_singleton] at hrows
    obtain ⟨cells, -, hcells, -⟩ := List.forall₂_cons_left_iff.1 hrows
    have hname : "[/x]" ∈ packageRow (labelPackage "[/x]") := List.mem_cons_self
    obtain ⟨lines, hlines⟩ := hcells.exists_lines hname
    rw [Table.cellLines, hbroken] at hlines
    cases hlines
  · exact ⟨request?_scan.1, request?_scan.2, _, log, fault, _, hdocument, htable.trans hfailed⟩

end PascalWorkspace.CommandLine
