import PascalWorkspace.Proofs.Manifest.Reading
import PascalWorkspace.Proofs.Session.Scan
import PascalWorkspace.Proofs.Walk.Located
import PascalWorkspace.Proofs.Walk.Success

/-! How a scan of the files of a machine ends. If each manifest can be read or is reported as one
that cannot, then only two things keep a scan from ending well: a hint that leads to a link which
leads back to itself, and a name on the way that is taken for one of a home directory. -/
namespace PascalWorkspace

open Operation FileTree Host

/-- What keeps a scan from ending well, with the error that it ends with. -/
inductive Obstacle (h : Host) (visits : List Visit) : PathError → Prop where
  | hint {p : Path} {m : Manifest} {q : Requirement} {loop : String}
      (hread : readManifest h p = .ok m) (hq : q ∈ m.requirements)
      (hloop : h.canonical q.hint = .error (.linkLoop loop)) : Obstacle h visits (.linkLoop loop)
  | tilde {visit : Visit} {p : Path} {e : PathError} (hvisit : visit ∈ visits)
      (hp : visit.Shows p) (htilde : p.BeginsWithTilde)
      (hhome : h.canonical p.toString = .error e) : Obstacle h visits e

/-- A scan is expected to fail because of an obstacle only. -/
def Obstructed (h : Host) (visits : List Visit) (failure : Failure) : Prop :=
  ∃ e, failure = .badPath e ∧ Obstacle h visits e

variable {h : Host} {visits : List Visit} {ignored : List String} {root : Path}

/-- The files of a machine are a source that fails because of obstacles only. -/
theorem reliable_ofHost (hh : h.Regular) (ht : h.tree.WellFormed) (hread : ReadsOrReports h) :
    (ManifestSource.ofHost h).Reliable (Obstructed h visits) := by
  have hoffers {key : String} {m : Manifest} (hm : (ManifestSource.ofHost h).Offers key m) :
      ∃ p : Path, p.Spelled ∧ key = p.toString ∧ readManifest h p = .ok m := by
    obtain ⟨⟨text, htext⟩, hm⟩ := hm
    obtain ⟨p, hp, rfl⟩ := exists_spelled_of_canonical hh htext
    have hm : readManifest h (Path.ofString p.toString) = .ok m := hm
    rw [hp.ofString_toString] at hm
    exact ⟨p, hp, rfl, hm⟩
  constructor
  case reads =>
    intro text key hkey
    obtain ⟨p, hp, rfl⟩ := exists_spelled_of_canonical hh hkey
    have hp' := hread p (holdsNul_of_spelled hp)
    rwa [← hp.ofString_toString] at hp'
  case again =>
    intro key m hm
    obtain ⟨p, hp, rfl, hreading⟩ := hoffers hm
    obtain ⟨bytes, -, hbytes, -⟩ := Manifest.exists_parse hreading
    obtain ⟨loc, hloc⟩ := exists_locate_of_readFile hbytes
    exact exists_canonical_of_locate hh (fun part hpart => (hp.names part hpart).toIsPart)
      hp.not_beginsWithTilde hloc
  case hints =>
    intro key m hm q hq hne e he
    obtain ⟨p, hp, -, hreading⟩ := hoffers hm
    have he : h.canonical q.hint = .error e := he
    obtain ⟨key, hkey⟩ | ⟨loop, hloop⟩ := Manifest.canonical_hint hh ht hp hreading hq hne
    · rw [hkey] at he
      cases he
    · obtain rfl := Except.error.inj (hloop.symm.trans he)
      exact ⟨_, rfl, .hint hreading hq hloop⟩
  case bounded =>
    intro keys hnodup hkeys
    refine Host.length_le_pathBound hnodup fun key hkey => ?_
    obtain ⟨m, hm⟩ := hkeys key hkey
    obtain ⟨p, hp, hkey, hreading⟩ := hoffers hm
    obtain ⟨bytes, -, hbytes, -⟩ := Manifest.exists_parse hreading
    exact ⟨p, bytes, hp, hkey, hbytes⟩

/-- What a walk from an existing directory comes upon can be asked for, up to obstacles. -/
theorem clear_ofHost (hh : h.Regular) (hlocated : ∀ visit ∈ visits, visit.Located h root.anchor) :
    Workspace.Clear h (.ofHost h) (Obstructed h visits) visits := by
  have hshown (visit : Visit) (hvisit : visit ∈ visits) (p : Path) (hp : visit.Shows p)
      (e : PathError) (he : h.canonical p.toString = .error e) :
      Obstructed h visits (.badPath e) := by
    have hreached := (hlocated visit hvisit).shown p hp
    obtain ⟨loc, hloc⟩ := hreached.leads
    by_cases htilde : p.BeginsWithTilde
    · exact ⟨e, rfl, .tilde hvisit hp htilde he⟩
    · obtain ⟨key, hkey⟩ := exists_canonical_of_locate hh hreached.parts htilde hloc
      rw [hkey] at he
      cases he
  refine ⟨fun visit hvisit => (hlocated visit hvisit).passable, fun visit hvisit m hm => ?_,
    fun visit hvisit => ?_⟩
  · exact hshown visit hvisit m (.inr hm)
  · exact hshown visit hvisit _ (.inl rfl)

theorem located_of_isDirectory {text : String} (ht : h.tree.WellFormed)
    (hroot : h.isDirectory (Path.ofString text) = .ok true) :
    ∀ visit ∈ Visit.all h ignored (Path.ofString text),
      visit.Located h (Path.ofString text).anchor := by
  obtain ⟨loc, hloc, -⟩ := exists_locate_of_test hroot
  have hreached : h.Reached (Path.ofString text).anchor (Path.ofString text) :=
    ⟨rfl, fun _ hpart => Path.isPart_of_mem_ofString hpart, loc, hloc⟩
  exact fun _ hvisit => Visit.located_of_mem_below ht hreached hvisit

/-- On the way from an absolute path there is no obstacle but hints. -/
theorem Obstacle.exists_hint {e : PathError} (he : Obstacle h visits e)
    (hlocated : ∀ visit ∈ visits, visit.Located h root.anchor) (hroot : root.isAbsolute = true) :
    ∃ p m, ∃ q ∈ m.requirements, readManifest h p = .ok m ∧ h.canonical q.hint = .error e := by
  cases he with
  | hint hread hq hloop => exact ⟨_, _, _, hq, hread, hloop⟩
  | tilde hvisit hp htilde _ =>
    have hanchor := ((hlocated _ hvisit).shown _ hp).anchored
    rw [Path.isAbsolute, ← hanchor, htilde.1] at hroot
    cases hroot

namespace Session

variable {expected : Failure → Prop} {source : ManifestSource} {s : Session}

/-- A scan ends well or as its walks are expected to fail. -/
theorem triple_scan (hsource : source.Reliable expected)
    (hvisits : Workspace.Clear h source expected (Visit.all h s.settings.ignoredNames root)) :
    Triple expected (fun t => Workspace.Holds source source.capacity t.workspace ∧ t = s)
      (scan h source root) fun _ _ => True := by
  let Stocked (t : Session) : Prop := Workspace.Holds source source.capacity t.workspace
  refine triple_get_bind fun t ht => ?_
  obtain ⟨-, rfl⟩ := ht
  suffices hwalks : Triple expected Stocked _ fun _ _ => True from
    fun t ht => hwalks t ht.1
  refine triple_bind (triple_onWorkspace (Workspace.triple_resolveBelow hsource hvisits))
    fun found => ?_
  refine triple_bind (triple_modify (I := Stocked) fun t ht => ht) fun _ => ?_
  refine triple_bind (triple_onWorkspace (Workspace.triple_repairBelow hsource hvisits))
    fun _ => ?_
  refine triple_bind (triple_onWorkspace (Workspace.triple_publishBelow hsource hvisits))
    fun _ => ?_
  refine triple_get_bind fun t ht => ?_
  exact (triple_onWorkspace (Workspace.triple_report Workspace.holds_log _ _)).imp
    fun _ _ _ => trivial

/-- The manifests that can be read are registered, all of those on the way of some visits. -/
def NoneLeftOut (h : Host) (visits : List Visit) (r : Registry) : Prop :=
  ∀ visit ∈ visits, ∀ m ∈ visit.listed, ∀ key manifest, h.canonical m.toString = .ok key →
    readManifest h (Path.ofString key) = .ok manifest → (r.find? key).isSome

theorem noneLeftOut_of_scan {t : Session} (hs : s.workspace.registry = {})
    (hok : outcome (scan h (.ofHost h) root) s = (.ok (), t)) :
    NoneLeftOut h (Visit.all h s.settings.ignoredNames root) t.workspace.registry := by
  obtain ⟨r, hscan⟩ := exists_scanned hs hok
  intro visit hvisit m hm key manifest hkey hmanifest
  rw [hscan.same.isSome_find?]
  refine (hscan.explored.heard visit hvisit m hm key hkey).resolve_right ?_
  rintro ⟨path, fault, hfault⟩
  cases hmanifest.symm.trans hfault

/-- Where every manifest is read or reported, a scan of an existing directory ends well unless there
is an obstacle. It leaves out no manifest on its way that can be read. -/
theorem scan_ends (h : Host) (hh : h.Regular) (ht : h.tree.WellFormed) (hread : ReadsOrReports h)
    (text : String) (hroot : h.isDirectory (Path.ofString text) = .ok true) (s : Session)
    (hs : s.workspace.registry = {}) :
    let root := Path.ofString text
    let visits := Visit.all h s.settings.ignoredNames root
    (∃ t, outcome (scan h (.ofHost h) root) s = (.ok (), t) ∧
      NoneLeftOut h visits t.workspace.registry) ∨
    ∃ e t, outcome (scan h (.ofHost h) root) s = (.error (.badPath e), t) ∧
      Obstacle h visits e := by
  intro root visits
  have hlocated : ∀ visit ∈ visits, visit.Located h root.anchor := located_of_isDirectory ht hroot
  have hstocked : Workspace.Holds (.ofHost h) (ManifestSource.ofHost h).capacity s.workspace := by
    rw [Workspace.Holds, hs]
    exact Registry.stocked_empty _
  have hscan := triple_scan (reliable_ofHost hh ht hread) (clear_ofHost hh hlocated)
  obtain ⟨_, t, hok, -⟩ | ⟨failure, t, hfailed, e, rfl, he⟩ := hscan s ⟨hstocked, rfl⟩
  · exact .inl ⟨t, hok, noneLeftOut_of_scan hs hok⟩
  · exact .inr ⟨e, t, hfailed, he⟩

/-- Where no manifest needs another, a scan from an absolute path ends well. -/
theorem scan_ends_of_no_requirements (hh : h.Regular) (ht : h.tree.WellFormed)
    (hread : ReadsOrReports h) {text : String} (habsolute : (Path.ofString text).isAbsolute = true)
    (hroot : h.isDirectory (Path.ofString text) = .ok true)
    (hnone : ∀ p m, readManifest h p = .ok m → m.requirements = [])
    (hs : s.workspace.registry = {}) :
    ∃ t, outcome (scan h (.ofHost h) (Path.ofString text)) s = (.ok (), t) := by
  have hlocated : ∀ visit ∈ Visit.all h s.settings.ignoredNames (Path.ofString text),
      visit.Located h (Path.ofString text).anchor := located_of_isDirectory ht hroot
  have hstocked : Workspace.Holds (.ofHost h) (ManifestSource.ofHost h).capacity s.workspace := by
    rw [Workspace.Holds, hs]
    exact Registry.stocked_empty _
  have hscan := triple_scan (reliable_ofHost hh ht hread) (clear_ofHost hh hlocated)
  obtain ⟨_, t, hok, -⟩ | ⟨failure, t, -, e, -, he⟩ := hscan s ⟨hstocked, rfl⟩
  · exact ⟨t, hok⟩
  · obtain ⟨p, m, q, hq, hm, -⟩ := he.exists_hint hlocated habsolute
    rw [hnone p m hm] at hq
    cases hq

/-! ### Links and files that are left out -/

/-- A machine with a manifest that is none, a link that leads back to itself and one that leads
nowhere. -/
def strayHost : Host where
  tree := ⟨[(["w"], .directory), (["w", "a.lpk"], .file []), (["w", "b.lpk"], .link "b.lpk"),
    (["w", "c.lpk"], .link "gone")]⟩
  cwd := []
  environment := []
  homes := []

theorem wellFormed_stray : strayHost.tree.WellFormed := by decide

theorem regular_stray : strayHost.Regular where
  cwd := .root
  targets link target hlink := by
    have hmem := mem_entries (ne_root_of_link hlink) hlink
    have htarget : target = "b.lpk" ∨ target = "gone" := by
      simp only [strayHost, List.mem_cons, Prod.mk.injEq, Entry.link.injEq,
        List.not_mem_nil] at hmem
      tauto
    obtain rfl | rfl := htarget <;> decide

theorem eq_nil_of_file_stray {loc : Location} {bytes : List UInt8}
    (hfile : strayHost.tree.entryAt loc = some (.file bytes)) : bytes = [] := by
  have hmem := mem_entries (ne_root_of_file hfile) hfile
  simp only [strayHost, List.mem_cons, Prod.mk.injEq, Entry.file.injEq, reduceCtorEq,
    List.not_mem_nil, and_false, false_or, or_false] at hmem
  exact hmem.2

theorem parse_nil : Xml.parse [] = .error .notWellFormed := by cbv

/-- No manifest can be read, and the scan ends well. -/
theorem scan_ends_stray : strayHost.Regular ∧ strayHost.tree.WellFormed ∧
    ReadsOrReports strayHost ∧ strayHost.isDirectory (Path.ofString "/w") = .ok true ∧
    ({} : Session).workspace.registry = {} ∧
    ∃ t, outcome (scan strayHost (.ofHost strayHost) (Path.ofString "/w")) {} = (.ok (), t) := by
  have hread : ReadsOrReports strayHost :=
    Manifest.readsOrReports_of_parse fun loc bytes hfile => by
      obtain rfl := eq_nil_of_file_stray hfile
      exact .inr parse_nil
  have hroot : strayHost.isDirectory (Path.ofString "/w") = .ok true := by cbv
  refine ⟨regular_stray, wellFormed_stray, hread, hroot, rfl, ?_⟩
  obtain ⟨t, hok, -⟩ | ⟨e, t, -, he⟩ :=
    scan_ends strayHost regular_stray wellFormed_stray hread "/w" hroot {} rfl
  · exact ⟨t, hok⟩
  · have habsolute : (Path.ofString "/w").isAbsolute = true := by cbv
    obtain ⟨p, m, q, -, hm, -⟩ :=
      he.exists_hint (located_of_isDirectory wellFormed_stray hroot) habsolute
    obtain ⟨bytes, document, hbytes, hdocument⟩ := Manifest.exists_parse hm
    obtain ⟨loc, hfile⟩ := Manifest.exists_entryAt_of_readFile hbytes
    obtain rfl := eq_nil_of_file_stray hfile
    rw [parse_nil] at hdocument
    cases hdocument

/-! ### A hint that is not left out -/

theorem outcome_linkDependency_badPath {ref : DependencyRef} {p : Package} {d : Dependency}
    {w : Workspace} {e : PathError} (hp : w.registry.find? ref.manifest = some p)
    (hd : p.dependencies[ref.index]? = some d) (hpath : (w.registry.choosePath d).isEmpty = false)
    (he : source.canonical (w.registry.choosePath d) = .error e) :
    outcome (Workspace.linkDependency source ref) w = (.error (.badPath e), w) := by
  have hask : outcome (Workspace.tryRegister source (w.registry.choosePath d)) w =
      (.error (.badPath e), w) := by
    rw [Workspace.outcome_tryRegister, after, Workspace.outcome_register_badPath he]
    rfl
  rw [Workspace.linkDependency, outcome_bind, outcome_get]
  simp only [hp, hd, hpath]
  rw [if_neg Bool.false_ne_true, outcome_bind, hask]

/-- A package that needs another, which is said to lie in a certain directory. -/
def needyFile : List UInt8 :=
  ("<CONFIG><Package><RequiredPkgs><Item><PackageName Value='B'/>" ++
    "<DefaultFilename Value='../d'/></Item></RequiredPkgs></Package></CONFIG>").toList.map
      fun c => c.toNat.toUInt8

def needyDocument : Xml.Element :=
  ⟨"CONFIG", [], [⟨"Package", [], [⟨"RequiredPkgs", [], [⟨"Item", [], [
    ⟨"PackageName", [("Value", "B")], []⟩, ⟨"DefaultFilename", [("Value", "../d")], []⟩]⟩]⟩]⟩]⟩

/-- The only manifest in the directory that the hint names. -/
def needyManifest : Manifest :=
  ⟨"a", "/w", ⟨["/w"], ["/w"], []⟩, [⟨"B", "/d/x.lpk", false⟩]⟩

def needyPackage : Package := .ofManifest "/w/a.lpk" needyManifest

/-- A machine with that package. The manifest in the directory is a link that leads back to itself.
-/
def needyHost (content : List UInt8) : Host where
  tree := ⟨[(["w"], .directory), (["w", "a.lpk"], .file content), (["d"], .directory),
    (["d", "x.lpk"], .link "x.lpk")]⟩
  cwd := []
  environment := []
  homes := []

def needyRoot : Path := Path.ofString "/w"

def needyPath : Path := ⟨.root, ["w", "a.lpk"]⟩

set_option maxRecDepth 20000 in
theorem parse_needy : Xml.parse needyFile = .ok needyDocument := by cbv

section Content

variable (content : List UInt8)

theorem regular_needy : (needyHost content).Regular where
  cwd := .root
  targets link target hlink := by
    have hmem := mem_entries (ne_root_of_link hlink) hlink
    obtain rfl : target = "x.lpk" := by
      simp only [needyHost, List.mem_cons, Prod.mk.injEq, Entry.link.injEq, reduceCtorEq,
        List.not_mem_nil, and_false, false_or, or_false] at hmem
      exact hmem.2
    decide

theorem wellFormed_needy : (needyHost content).tree.WellFormed where
  distinct := by simp [needyHost]
  names := by
    have hnames : ∀ place ∈ [["w"], ["w", "a.lpk"], ["d"], ["d", "x.lpk"]], ∀ name ∈ place,
        IsFileName name := by decide
    intro e he name hname
    have hplace : e.1 ∈ (needyHost content).tree.entries.map (·.1) := List.mem_map_of_mem he
    exact hnames e.1 hplace name hname

theorem locate_needy : (needyHost content).locate needyRoot = .ok ["w"] ∧
    (needyHost content).locate needyPath = .ok ["w", "a.lpk"] := by
  have hroot : (needyHost content).tree.entryAt ["w"] = some .directory := rfl
  have hfile : (needyHost content).tree.entryAt ["w", "a.lpk"] = some (.file content) := rfl
  have hway {rest : List String} {out : Location}
      (h : Follows (needyHost content).tree maxLinks ["w"] rest out) :
      Follows (needyHost content).tree maxLinks [] ("w" :: rest) out :=
    .enter rfl (by decide) (by decide) (by decide) hroot (by simp) h
  exact ⟨locate_eq_ok_iff.2 ⟨by decide, hway .done⟩, locate_eq_ok_iff.2
    ⟨by decide, hway (.enter hroot (by decide) (by decide) (by decide) hfile (by simp) .done)⟩⟩

theorem canonical_needy : (needyHost content).canonical needyPath.toString = .ok "/w/a.lpk" ∧
    (needyHost content).canonical "/d/x.lpk" = .error (.linkLoop "/d/x.lpk") := by
  have hroot : Clean (needyHost content).tree ["w"] := .child .root (by decide) nofun
  have hfile : Clean (needyHost content).tree ["w", "a.lpk"] := hroot.child (by decide) nofun
  exact ⟨canonical_pathOf hfile, by cbv⟩

theorem visits_needy :
    Visit.all (needyHost content) [] needyRoot = [⟨needyRoot, .ok [needyPath]⟩] := by
  obtain ⟨hroot, hpath⟩ := locate_needy content
  have hnames : (needyHost content).childNames needyRoot = .ok ["a.lpk"] := by
    rw [Host.childNames, hroot]
    rfl
  exact Visit.all_of_only_child (by decide) hnames (by decide) hpath rfl (by decide)

theorem readManifest_needy (hparse : Xml.parse content = .ok needyDocument) :
    readManifest (needyHost content) needyPath = .ok needyManifest := by
  have hfile : (needyHost content).readFile needyPath = .ok content := by
    rw [Host.readFile, Host.entry?, (locate_needy content).2]
    rfl
  have hmanifest : Manifest.ofDocument (needyHost content) needyPath needyDocument =
      .ok needyManifest := by cbv
  have hdocument : readDocument (needyHost content) needyPath = .ok (.ok needyDocument) := by
    rw [readDocument, hfile]
    simp only [hparse]
  rw [readManifest, hdocument]
  simp only [bind, Except.bind, hmanifest]
  rfl

theorem readsOrReports_needy (hparse : Xml.parse content = .ok needyDocument) :
    ReadsOrReports (needyHost content) := by
  refine Manifest.readsOrReports_of_parse fun loc bytes hfile => ?_
  have hmem := mem_entries (ne_root_of_file hfile) hfile
  obtain rfl : bytes = content := by
    simp only [needyHost, List.mem_cons, Prod.mk.injEq, Entry.file.injEq, reduceCtorEq,
      List.not_mem_nil, and_false, false_or, or_false] at hmem
    exact hmem.2
  exact .inl ⟨_, hparse⟩

theorem isDirectory_needy : (needyHost content).isDirectory needyRoot = .ok true := by
  rw [Host.isDirectory, Host.test, Host.entry?, (locate_needy content).1]
  rfl

end Content

/-- The package is left with its dependency not looked for. -/
theorem exists_error_of_resolve_needy {w : Workspace} {e : PathError}
    (he : source.canonical "/d/x.lpk" = .error e) (hw : w.registry.packages = [needyPackage])
    (hname : w.registry.lookup? "B" = none) :
    ∃ v, outcome (Workspace.resolve source "/w/a.lpk") w = (.error (.badPath e), v) := by
  obtain ⟨⟨packages, names, requested⟩, defines, log⟩ := w
  obtain rfl : packages = [needyPackage] := hw
  let begun : Workspace :=
    ⟨(⟨[needyPackage], names, requested⟩ : Registry).markResolved "/w/a.lpk", defines, log⟩
  have hfind : (⟨[needyPackage], names, requested⟩ : Registry).find? "/w/a.lpk" =
      some needyPackage := rfl
  have hrefs : needyPackage.dependencyRefs = [⟨"/w/a.lpk", 0⟩] := rfl
  -- The name leads nowhere, so the hint counts.
  have hchosen : begun.registry.choosePath ⟨⟨"B", "/d/x.lpk", false⟩, none⟩ = "/d/x.lpk" := by
    have hbegun : begun.registry.lookup? "B" = none := hname
    simp [Registry.choosePath, Registry.namedPath, hbegun]
  have hlink : outcome (Workspace.linkDependency source ⟨"/w/a.lpk", 0⟩) begun =
      (.error (.badPath e), begun) := by
    have hpath : "/d/x.lpk".isEmpty = false := by decide
    rw [← hchosen] at hpath he
    exact outcome_linkDependency_badPath rfl rfl hpath he
  rw [Workspace.resolve, outcome_bind, outcome_get]
  simp only [hfind, hrefs]
  rw [if_neg (by decide), outcome_bind, Workspace.outcome_changeRegistry]
  simp only
  rw [Workspace.resolveAll, outcome_bind, hlink]
  exact ⟨_, rfl⟩

theorem exists_error_of_resolveBelow_needy (content : List UInt8)
    (hparse : Xml.parse content = .ok needyDocument) :
    ∃ v, outcome (Workspace.resolveBelow (needyHost content) (.ofHost (needyHost content)) []
      needyRoot) {} = (.error (.badPath (.linkLoop "/d/x.lpk")), v) := by
  obtain ⟨hkey, hloop⟩ := canonical_needy content
  have hpath : Path.ofString "/w/a.lpk" = needyPath := by decide
  have hread : readManifest (needyHost content) (Path.ofString "/w/a.lpk") = .ok needyManifest :=
    hpath ▸ readManifest_needy content hparse
  generalize hsource : ManifestSource.ofHost (needyHost content) = source
  replace hkey : source.canonical needyPath.toString = .ok "/w/a.lpk" := hsource ▸ hkey
  replace hloop : source.canonical "/d/x.lpk" = .error (.linkLoop "/d/x.lpk") := hsource ▸ hloop
  replace hread : source.read "/w/a.lpk" = .ok needyManifest := hsource ▸ hread
  obtain ⟨w, hask, hw, hname⟩ : ∃ w, outcome (Workspace.tryRegister source needyPath.toString) {} =
      (.ok (.ok needyPackage), w) ∧ w.registry.packages = [needyPackage] ∧
        w.registry.lookup? "B" = none := by
    rw [Workspace.outcome_tryRegister, after, Workspace.outcome_register_new hkey rfl hread]
    have hname : (({} : Registry).add needyPackage).lookup? "B" = none := by cbv
    exact ⟨_, rfl, rfl, hname⟩
  obtain ⟨v, hstop⟩ := exists_error_of_resolve_needy hloop hw hname
  have hmanifest : needyPackage.manifest = "/w/a.lpk" := rfl
  rw [Workspace.resolveBelow, visits_needy]
  refine ⟨v, ?_⟩
  simp only [Workspace.forPackages, Workspace.listedManifests, Workspace.forManifests, outcome_bind,
    outcome_pure, hask, hmanifest, hstop]

theorem exists_error_of_scan_needy (content : List UInt8)
    (hparse : Xml.parse content = .ok needyDocument) :
    ∃ t, outcome (scan (needyHost content) (.ofHost (needyHost content)) needyRoot) {} =
      (.error (.badPath (.linkLoop "/d/x.lpk")), t) := by
  obtain ⟨v, hstop⟩ := exists_error_of_resolveBelow_needy content hparse
  have hfirst : outcome (onWorkspace (Workspace.resolveBelow (needyHost content)
      (.ofHost (needyHost content)) [] needyRoot)) {} =
        (.error (.badPath (.linkLoop "/d/x.lpk")), { workspace := v }) :=
    outcome_onWorkspace _ |>.trans (by rw [hstop])
  refine ⟨{ workspace := v }, ?_⟩
  have hignored : ({} : Session).settings.ignoredNames = [] := rfl
  rw [scan, outcome_bind, outcome_get]
  exact (outcome_bind _ _ _).trans (by rw [hignored, hfirst])

/-- The hint ends the scan, and the dependency is not just left out. -/
theorem scan_stopped_needy :
    (needyHost needyFile).Regular ∧ (needyHost needyFile).tree.WellFormed ∧
      ReadsOrReports (needyHost needyFile) ∧
      (needyHost needyFile).isDirectory (Path.ofString "/w") = .ok true ∧
      ({} : Session).workspace.registry = {} ∧
      ∃ t, outcome (scan (needyHost needyFile) (.ofHost (needyHost needyFile))
        (Path.ofString "/w")) {} = (.error (.badPath (.linkLoop "/d/x.lpk")), t) :=
  ⟨regular_needy _, wellFormed_needy _, readsOrReports_needy _ parse_needy,
    isDirectory_needy _, rfl, exists_error_of_scan_needy _ parse_needy⟩

end Session

end PascalWorkspace
