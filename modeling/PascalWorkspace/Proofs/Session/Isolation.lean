import PascalWorkspace.Proofs.Host.Added
import PascalWorkspace.Proofs.Session.Order

/-! A project file that cannot be read. A scan that ends well without it ends well with it, and
finds the same. -/
namespace PascalWorkspace

open Operation FileTree Host

variable {h h' : Host} {directory : Location} {name : String} {content : List UInt8}

/-- Whatever path leads to a place, what lies there is reported as no manifest. -/
def Host.BrokenAt (h : Host) (place : Location) : Prop :=
  ∀ p, h.locate p = .ok place → ∃ path fault, readManifest h p = .error (.manifest path fault)

/-- A walk comes to a place by a path that begins like one in a home directory. -/
def Host.MetUnderTilde (h : Host) (visits : List Visit) (place : Location) : Prop :=
  ∃ visit ∈ visits, ∃ m ∈ visit.listed, h.locate m = .ok place ∧ m.BeginsWithTilde

/-- The manifests that can be read. -/
def Host.Readable (h : Host) (key : String) : Prop :=
  ∃ m, readManifest h (Path.ofString key) = .ok m

/-- The manifests on the way of a walk lead somewhere, by paths in normal form. -/
theorem Visit.reached_of_listed {ignored : List String} {text : String} {visit : Visit} {m : Path}
    (ht : h.tree.WellFormed) (hvisit : visit ∈ Visit.all h ignored (Path.ofString text))
    (hm : m ∈ visit.listed) : h.Reached (Path.ofString text).anchor m := by
  cases hroot : h.locate (Path.ofString text) with
  | ok loc =>
    have hreached : h.Reached (Path.ofString text).anchor (Path.ofString text) :=
      ⟨rfl, fun _ hpart => Path.isPart_of_mem_ofString hpart, loc, hroot⟩
    exact (located_of_mem_below ht hreached hvisit).shown m (.inr hm)
  | error e =>
    have hlisting : listing h (Path.ofString text) = .error e := by
      simp only [listing, manifestsIn, childrenWhere, Host.childNames, hroot, bind, Except.bind]
    rw [all, below, hlisting] at hvisit
    split at hvisit
    · cases hvisit
    · obtain rfl := List.mem_singleton.1 hvisit
      cases hm

/-- No path below an absolute one begins like one in a home directory. -/
theorem not_metUnderTilde_of_isAbsolute {ignored : List String} {text : String} {place : Location}
    (ht : h.tree.WellFormed) (habsolute : (Path.ofString text).isAbsolute = true) :
    ¬ h.MetUnderTilde (Visit.all h ignored (Path.ofString text)) place := by
  rintro ⟨visit, hvisit, m, hm, -, htilde⟩
  rw [Path.isAbsolute, ← (Visit.reached_of_listed ht hvisit hm).anchored, htilde.1] at habsolute
  cases habsolute

/-- What is not well-formed is reported as no manifest. -/
theorem brokenAt_of_parse {place : Location} (hentry : h.tree.entryAt place = some (.file content))
    (hparse : Xml.parse content = .error .notWellFormed) : h.BrokenAt place := by
  intro p hloc
  have hfile : h.readFile p = .ok content := by
    rw [readFile, entry?, hloc]
    dsimp only
    rw [hentry]
    rfl
  exact ⟨_, _, readManifest_of_notWellFormed hfile hparse⟩

section Adds

variable (hadds : h.Adds h' directory name content) (hbroken : h'.BrokenAt (directory ++ [name]))
include hadds hbroken

/-- The file is passed over under every path that does not begin like one in a home directory. -/
theorem passesOver_of_locate (hh : h'.Regular) {m : Path}
    (hparts : ∀ part ∈ m.parts, Path.IsPart part) (htilde : ¬ m.BeginsWithTilde)
    (hloc : h'.locate m = .ok (directory ++ [name])) :
    (ManifestSource.ofHost h').PassesOver (.exact h.Readable) m := by
  obtain ⟨hclean, hkey⟩ := canonical_of_locate hh hparts htilde hloc
  have htext := ofString_pathOf hclean
  have hread : ∃ path fault,
      readManifest h' (pathOf (directory ++ [name])) = .error (.manifest path fault) := by
    cases hplace : h'.locate (pathOf (directory ++ [name])) with
    | ok loc =>
      obtain rfl := locate_pathOf hclean hplace
      exact hbroken _ hplace
    | error e =>
      have hfile : h'.readFile (pathOf (directory ++ [name])) = .error e := by
        rw [readFile, entry?, hplace]
      obtain ⟨reason, path, rfl⟩ := isRefusal_of_readFile (holdsNul_pathOf hclean) hfile
      exact ⟨_, _, readManifest_of_refused hfile⟩
  obtain ⟨path, fault, hread⟩ := hread
  refine ⟨_, path, fault, hkey, ?_, ?_⟩
  · rintro ⟨manifest, hold⟩
    rw [htext] at hold
    obtain ⟨bytes, -, hbytes, -⟩ := Manifest.exists_parse hold
    obtain ⟨loc, hplace⟩ := exists_locate_of_readFile hbytes
    obtain hsame | ⟨hmissing, -⟩ := hadds.toGrows.locate (pathOf (directory ++ [name]))
    · obtain rfl := locate_pathOf hclean (hsame ▸ hplace)
      exact hadds.toGrows.locate_ne _ hplace
    · rw [hmissing] at hplace
      cases hplace
  · change readManifest h' (Path.ofString _) = _
    rw [htext, hread]

/-- A walk leads through the same directories, and finds the file on its way at most as one that is
passed over. -/
theorem alike_of_adds (hh : h'.Regular) (ht : h'.tree.WellFormed) {ignored : List String}
    {text : String} (htilde :
      ¬ h'.MetUnderTilde (Visit.all h' ignored (Path.ofString text)) (directory ++ [name])) :
    h.Alike ((ManifestSource.ofHost h').PassesOver (.exact h.Readable)) ignored
      (Path.ofString text) h' where
  canonical := hadds.toGrows.canonical
  visits := by
    have hvisits := hadds.toGrows.alike_all ht ignored (Path.ofString text)
    have hmembers := (List.forall₂_and_left _ _).2 ⟨fun visit hvisit => hvisit, hvisits.flip⟩
    refine hmembers.flip.imp fun v v' ⟨hv', hv⟩ => hv.imp fun m hm hloc => ?_
    exact passesOver_of_locate hadds hbroken hh (Visit.reached_of_listed ht hv' hm).parts
      (fun hbegins => htilde ⟨v', hv', m, hm, hloc, hbegins⟩) hloc

variable (hproject : (pathOf (directory ++ [name])).extension = ".lpi")
include hproject

theorem alike_ofHost_added :
    (ManifestSource.ofHost h).Alike (.exact h.Readable) (fun _ => True) (.ofHost h') where
  canonical := hadds.toGrows.canonical
  read key := by
    have hread := hadds.readManifest hproject hbroken (Path.ofString key)
    unfold ManifestSource.ofHost
    dsimp only
    obtain hsame | ⟨⟨path, fault, hold⟩, path', fault', hnew⟩ := hread
    · rw [← hsame]
      cases hold : readManifest h (Path.ofString key) with
      | ok m => exact .ok ⟨m, hold⟩ m.alike_exact
      | error failure => exact .same failure
    · rw [hold, hnew]
      exact .faulty path path' fault fault'
  capacity := .inr ⟨hadds.toGrows.tree.pathBound_le, trivial⟩

end Adds

namespace Session

/-- A project file that cannot be read leaves no trace. If a scan of a machine ends well, then so it
does with the file, and ends with the same packages in the same order, tied to one another, merged
and published in the same way, and with the same defines. It must not come to the file by a path
that begins like one in a home directory. -/
theorem broken_project_isolated (hadds : h.Adds h' directory name content)
    (hproject : (pathOf (directory ++ [name])).extension = ".lpi")
    (hbroken : h'.BrokenAt (directory ++ [name])) (hh : h'.Regular) (ht : h'.tree.WellFormed)
    (text : String) (s t : Session) (hs : s.workspace.registry = {})
    (htilde : ¬ h'.MetUnderTilde (Visit.all h' s.settings.ignoredNames (Path.ofString text))
      (directory ++ [name]))
    (hok : outcome (scan h (.ofHost h) (Path.ofString text)) s = (.ok (), t)) :
    ∃ t', outcome (scan h' (.ofHost h') (Path.ofString text)) s = (.ok (), t') ∧
      t'.workspace.registry.packages = t.workspace.registry.packages ∧
      t'.workspace.registry.unresolved = t.workspace.registry.unresolved ∧
      t'.workspace.defines = t.workspace.defines ∧ t'.manifestsFound = t.manifestsFound := by
  have hsame : s.Alike (.exact h.Readable) s := alike_exact fun p hp => by
    rw [hs] at hp
    cases hp
  have hagree := agree_scan (alike_ofHost_added hadds hbroken hproject)
    (alike_of_adds hadds hbroken hh ht htilde) hsame
  rw [hok] at hagree
  obtain ⟨_, t', hok', htt', -⟩ := hagree.exists_ok
  have hpackages := htt'.workspace.registry.eq
  refine ⟨t', hok', hpackages.symm, ?_, htt'.workspace.defines.eq.symm, htt'.manifestsFound⟩
  rw [Registry.unresolved, Registry.unresolved, hpackages]

theorem adds_plain :
    (plainHost [("a.lpi", plainFile)]).Adds
      (plainHost [("b.lpi", []), ("a.lpi", plainFile)]) ["w"] "b.lpi" [] where
  tree := {
    entries := ⟨[(["w"], .directory)], [(["w", "a.lpi"], .file plainFile)], rfl, rfl⟩
    parent := rfl
    fresh := by simp [plainHost]
    size := by decide }
  rest := rfl
  cwd := by simp [plainHost]
  unlinked := fun loc link target hlink => by
    have hmem := mem_entries (by simp) hlink
    simp [plainHost] at hmem

/-- The project is registered, and the empty file beside it is passed over. -/
theorem broken_project_isolated_plain :
    let clean := plainHost [("a.lpi", plainFile)]
    let spoilt := plainHost [("b.lpi", []), ("a.lpi", plainFile)]
    clean.Adds spoilt ["w"] "b.lpi" [] ∧ (pathOf ["w", "b.lpi"]).extension = ".lpi" ∧
      spoilt.BrokenAt ["w", "b.lpi"] ∧ spoilt.Regular ∧ spoilt.tree.WellFormed ∧
      ({} : Session).workspace.registry = {} ∧
      ¬ spoilt.MetUnderTilde (Visit.all spoilt [] (Path.ofString "/w")) ["w", "b.lpi"] ∧
      ∃ t u, outcome (scan clean (.ofHost clean) (Path.ofString "/w")) {} = (.ok (), t) ∧
        outcome (scan spoilt (.ofHost spoilt) (Path.ofString "/w")) {} = (.ok (), u) ∧
        (u.workspace.registry.find? "/w/a.lpi").isSome := by
  intro clean spoilt
  have hclean : PlainFiles [("a.lpi", plainFile)] :=
    { distinct := by decide, names := by decide, contents := by simp [parse_plain] }
  have hspoilt : PlainFiles [("b.lpi", []), ("a.lpi", plainFile)] :=
    { distinct := by decide, names := by decide, contents := by simp [parse_plain] }
  have hproject : (pathOf ["w", "b.lpi"]).extension = ".lpi" := by decide +kernel
  have hbroken : spoilt.BrokenAt ["w", "b.lpi"] := brokenAt_of_parse rfl parse_nil
  have hregular : spoilt.Regular := regular_plain
  have hwellFormed : spoilt.tree.WellFormed := wellFormed_plain hspoilt
  have htilde : ¬ spoilt.MetUnderTilde (Visit.all spoilt [] (Path.ofString "/w")) ["w", "b.lpi"] :=
    not_metUnderTilde_of_isAbsolute hwellFormed (by decide)
  obtain ⟨t, hok, hfound⟩ := scan_plain hclean
  obtain ⟨u, hok', hpackages, -⟩ := broken_project_isolated adds_plain hproject hbroken hregular
    hwellFormed "/w" {} t rfl htilde hok
  refine ⟨adds_plain, hproject, hbroken, hregular, hwellFormed, rfl, htilde, t, u, hok, hok', ?_⟩
  have hregistered := hfound _ List.mem_cons_self parse_plain (by decide)
  rwa [Registry.find?, ← hpackages] at hregistered

/-! ### A name that is taken for one of a home directory -/

/-- A machine whose working directory is empty, or has an empty project file in it. -/
def campHost (spoilt : Bool) : Host where
  tree := ⟨(["w"], .directory) :: if spoilt then [(["w", "~x.lpi"], .file [])] else []⟩
  cwd := ["w"]
  environment := []
  homes := []

theorem wellFormed_camp (spoilt : Bool) : (campHost spoilt).tree.WellFormed := by
  cases spoilt <;> decide

theorem locate_camp (spoilt : Bool) : (campHost spoilt).locate (Path.ofString ".") = .ok ["w"] ∧
    (campHost true).locate ⟨.relative, ["~x.lpi"]⟩ = .ok ["w", "~x.lpi"] := by
  refine ⟨locate_eq_ok_iff.2 ⟨by decide, .done⟩, locate_eq_ok_iff.2 ⟨by decide, ?_⟩⟩
  have hentry : (campHost true).tree.entryAt ["w", "~x.lpi"] = some (.file []) := rfl
  exact .enter rfl (by decide) (by decide) (by decide) hentry (by simp) .done

theorem visits_camp :
    Visit.all (campHost false) [] (Path.ofString ".") = [⟨Path.ofString ".", .ok []⟩] ∧
    Visit.all (campHost true) [] (Path.ofString ".") =
      [⟨Path.ofString ".", .ok [⟨.relative, ["~x.lpi"]⟩]⟩] := by
  have hnames (spoilt : Bool) : (campHost spoilt).childNames (Path.ofString ".") =
      .ok (if spoilt then ["~x.lpi"] else []) := by
    rw [Host.childNames, (locate_camp spoilt).1]
    cases spoilt <;> rfl
  have hignored : isIgnored [] (Path.ofString ".") = false := by decide
  constructor
  · obtain ⟨manifests, hall, hlisted⟩ := Visit.all_of_files (wellFormed_camp false) hignored
      (hnames false) fun _ hname => absurd hname List.not_mem_nil
    obtain rfl : manifests = [] := List.eq_nil_iff_forall_not_mem.2 fun m hm => by
      obtain ⟨name, hname, -⟩ := (hlisted m).1 hm
      cases hname
    exact hall
  · exact Visit.all_of_only_child hignored (hnames true) (by decide) (locate_camp true).2
      rfl (by decide)

theorem canonical_camp : (campHost false).canonical "." = .ok "/w" ∧
    (campHost true).canonical "~x.lpi" = .error .homeUnknown := by
  refine ⟨?_, rfl⟩
  cbv

theorem scan_camp : ∃ t, outcome (scan (campHost false) (.ofHost (campHost false))
    (Path.ofString ".")) {} = (.ok (), t) := by
  have hresolve : reached (Workspace.resolveBelow (campHost false) (.ofHost (campHost false)) []
      (Path.ofString ".")) {} = (.ok 0, {}) := by
    rw [Workspace.resolveBelow, visits_camp.1]
    rfl
  have hrepair (defines : DefineTree) (log : Log) :
      reached (Workspace.repairBelow (campHost false) (.ofHost (campHost false)) []
        (Path.ofString ".")) ⟨{}, defines, log⟩ = (.ok 0, {}) := by
    rw [Workspace.repairBelow, visits_camp.1]
    rfl
  have hpublish (defines : DefineTree) (log : Log) :
      reached (Workspace.publishBelow (campHost false) (.ofHost (campHost false)) []
        (Path.ofString ".")) ⟨{}, defines, log⟩ = (.ok (), {}) := by
    have hname : (Path.ofString ".").toString = "." := by decide
    rw [Workspace.publishBelow, visits_camp.1]
    change reached (Workspace.publishVisit _ _ _ >>= fun _ => pure ()) _ = _
    simp only [reached, Workspace.publishVisit, outcome_bind, Workspace.outcome_report, hname,
      canonical_camp.1, outcome_ofPathResult_ok]
    rfl
  obtain ⟨t, hok, -⟩ := exists_scan {} hresolve hrepair hpublish
  exact ⟨t, hok⟩

/-- The scan ends with an error at a file that is listed and cannot be asked for. -/
theorem exists_error_of_scan_camp : ∃ t, outcome (scan (campHost true) (.ofHost (campHost true))
    (Path.ofString ".")) {} = (.error (.badPath .homeUnknown), t) := by
  have hask : outcome (Workspace.tryRegister (.ofHost (campHost true)) "~x.lpi") {} =
      (.error (.badPath .homeUnknown), {}) := by
    rw [Workspace.outcome_tryRegister, after, Workspace.outcome_register_badPath canonical_camp.2]
    rfl
  have hname : (⟨.relative, ["~x.lpi"]⟩ : Path).toString = "~x.lpi" := by decide
  have hresolve : outcome (Workspace.resolveBelow (campHost true) (.ofHost (campHost true)) []
      (Path.ofString ".")) {} = (.error (.badPath .homeUnknown), {}) := by
    rw [Workspace.resolveBelow, visits_camp.2]
    simp only [Workspace.forPackages, Workspace.listedManifests, Workspace.forManifests,
      outcome_bind, outcome_pure, hname, hask]
  have hignored : ({} : WorkspaceSettings).ignoredNames = [] := rfl
  refine ⟨{}, ?_⟩
  rw [scan, outcome_bind, outcome_get]
  dsimp only
  rw [outcome_bind, outcome_onWorkspace, hignored]
  simp only [hresolve]

/-- The file is not passed over but ends the scan, since its name begins with a tilde. -/
theorem scan_stopped_camp :
    (campHost false).Adds (campHost true) ["w"] "~x.lpi" [] ∧
      (pathOf ["w", "~x.lpi"]).extension = ".lpi" ∧ (campHost true).BrokenAt ["w", "~x.lpi"] ∧
      (campHost true).Regular ∧ (campHost true).tree.WellFormed ∧
      (∃ t, outcome (scan (campHost false) (.ofHost (campHost false)) (Path.ofString ".")) {} =
        (.ok (), t)) ∧
      ∃ t, outcome (scan (campHost true) (.ofHost (campHost true)) (Path.ofString ".")) {} =
        (.error (.badPath .homeUnknown), t) := by
  have hlinks (spoilt : Bool) (loc : Location) (target : String) :
      (campHost spoilt).tree.entryAt loc ≠ some (.link target) := fun hlink => by
    have hmem := mem_entries (ne_root_of_link hlink) hlink
    cases spoilt <;> simp [campHost] at hmem
  have hadds : (campHost false).Adds (campHost true) ["w"] "~x.lpi" [] :=
    { tree := {
        entries := ⟨[(["w"], .directory)], [], rfl, rfl⟩
        parent := rfl
        fresh := by simp [campHost]
        size := by decide }
      rest := rfl
      cwd := by simp [campHost]
      unlinked := fun loc link target hlink => (hlinks false _ _ hlink).elim }
  have hregular : (campHost true).Regular :=
    { cwd := .child .root (by decide) fun target => hlinks true _ target
      targets := fun link target hlink => (hlinks true link target hlink).elim }
  exact ⟨hadds, by decide +kernel, brokenAt_of_parse rfl parse_nil, hregular, wellFormed_camp true,
    scan_camp, exists_error_of_scan_camp⟩

end Session

end PascalWorkspace
