import PascalWorkspace.Proofs.Host.Order
import PascalWorkspace.Proofs.Session.InStep
import PascalWorkspace.Proofs.Session.Success

/-! The order in which directories are enumerated. It leaves no trace in what a scan finds. -/
namespace PascalWorkspace

open Operation FileTree Host

theorem ManifestSource.alike_exact (source : ManifestSource) :
    source.Alike (.exact fun _ => True) Never source where
  canonical _ := rfl
  read key := by
    cases source.read key with
    | error failure => exact .same failure
    | ok m => exact .ok trivial m.alike_exact
  capacity := .inl rfl

namespace Session

variable {h h' : Host}

theorem alike_exact {keys : String → Prop} {s : Session}
    (hs : ∀ p ∈ s.workspace.registry.packages, keys p.manifest) : s.Alike (.exact keys) s :=
  ⟨s.workspace, rfl, Registry.alike_exact hs, DefineTree.alike_exact _⟩

/-- In whatever order directories are enumerated, a scan ends in the same way, with the same
packages in the same order, tied to one another, merged and published in the same way, and the same
defines. -/
theorem scan_order_irrelevant (ht : h.tree.WellFormed) (hh : h.Reordered h') (root : Path)
    (s : Session) :
    let x := outcome (scan h (.ofHost h) root) s
    let y := outcome (scan h' (.ofHost h') root) s
    x.1 = y.1 ∧ x.2.workspace.registry.packages = y.2.workspace.registry.packages ∧
      x.2.workspace.defines = y.2.workspace.defines ∧ x.2.manifestsFound = y.2.manifestsFound := by
  intro x y
  have hvisits : h.Alike ((ManifestSource.ofHost h).PassesOver (.exact fun _ => True))
      s.settings.ignoredNames root h' := by
    refine ⟨hh.canonical ht, (hh.alike_all ht _ root).imp fun v v' hv => ?_⟩
    exact hv.imp fun _ _ hnone => hnone.elim
  have hxy : Agree Never (Alike (.exact fun _ => True)) Any x y := by
    dsimp only [x, y]
    rw [← hh.source ht]
    exact agree_scan (ManifestSource.alike_exact _) hvisits (alike_exact fun _ _ => trivial)
  have hstate := hxy.state
  refine ⟨?_, hstate.workspace.registry.eq, hstate.workspace.defines.eq,
    hstate.manifestsFound.symm⟩
  generalize x = x' at hxy ⊢
  generalize y = y' at hxy ⊢
  cases hxy with
  | ok => rfl
  | fail => rfl
  | excused he => exact he.elim

/-! ### Projects side by side -/

/-- The shortest project file. -/
def plainFile : List UInt8 := "<CONFIG/>".toList.map fun c => c.toNat.toUInt8

def plainDocument : Xml.Element := ⟨"CONFIG", [], []⟩

/-- A machine with these files in one directory. -/
def plainHost (files : List (String × List UInt8)) : Host where
  tree := ⟨(["w"], .directory) :: files.map fun f => (["w", f.1], .file f.2)⟩
  cwd := []
  environment := []
  homes := []

/-- Files that a directory can hold. Each of them is empty or the shortest project. -/
structure PlainFiles (files : List (String × List UInt8)) : Prop where
  distinct : (files.map (·.1)).Nodup
  names : ∀ f ∈ files, IsFileName f.1 ∧ f.1.utf8ByteSize ≤ maxNameBytes
  contents : ∀ f ∈ files, f.2 = [] ∨ Xml.parse f.2 = .ok plainDocument

/-- The same machine, enumerating its directories from the end. -/
def backwards (h : Host) : Host := { h with tree := ⟨h.tree.entries.reverse⟩ }

theorem reordered_backwards (h : Host) : h.Reordered (backwards h) :=
  ⟨(List.reverse_perm _).symm, rfl⟩

theorem parse_plain : Xml.parse plainFile = .ok plainDocument := by cbv

/-- The shortest project is named after its file and requires nothing. -/
theorem ofDocument_plain {p : Path}
    (hp : ManifestKind.ofExtension p.extension = some .project) :
    Manifest.ofDocument h p plainDocument =
      .ok ⟨p.stem, p.parent.toString, ⟨[p.parent.toString], [p.parent.toString], []⟩, []⟩ := by
  rw [Manifest.ofDocument, if_neg (by decide), hp]
  rfl

section Files

variable {files : List (String × List UInt8)} {f : String × List UInt8}

theorem mem_plain_of_file {loc : Location} {bytes : List UInt8}
    (hfile : (plainHost files).tree.entryAt loc = some (.file bytes)) :
    ∃ f ∈ files, f.2 = bytes := by
  obtain hmem | hmem := List.mem_cons.1 (mem_entries (ne_root_of_file hfile) hfile)
  · cases hmem
  · obtain ⟨f, hf, heq⟩ := List.mem_map.1 hmem
    exact ⟨f, hf, Entry.file.inj (Prod.mk.inj heq).2⟩

theorem regular_plain : (plainHost files).Regular where
  cwd := .root
  targets link target hlink := by
    obtain hmem | hmem := List.mem_cons.1 (mem_entries (ne_root_of_link hlink) hlink)
    · cases hmem
    · obtain ⟨f, -, heq⟩ := List.mem_map.1 hmem
      cases heq

theorem locate_plain : (plainHost files).locate (pathOf ["w"]) = .ok ["w"] :=
  locate_eq_ok_iff.2
    ⟨by decide, .enter rfl (by decide) (by decide) (by decide) rfl (by simp) .done⟩

theorem isDirectory_plain : (plainHost files).isDirectory (pathOf ["w"]) = .ok true := by
  rw [Host.isDirectory, Host.test, Host.entry?, locate_plain]
  rfl

theorem childNames_plain :
    (plainHost files).childNames (pathOf ["w"]) = .ok (files.map (·.1)) := by
  have hnames : (plainHost files).tree.childNames ["w"] = files.map (·.1) := by
    simp [FileTree.childNames, plainHost, List.filterMap_map, Function.comp_def]
  rw [Host.childNames, locate_plain, ← hnames]
  rfl

variable (hfiles : PlainFiles files)
include hfiles

theorem wellFormed_plain : (plainHost files).tree.WellFormed where
  distinct := by
    have hinj : Function.Injective fun name : String => ["w", name] := fun _ _ h => by simpa using h
    have hplaces := hfiles.distinct.map hinj
    rw [List.map_map] at hplaces
    simpa [plainHost, Function.comp_def] using hplaces
  names := by
    refine List.forall_mem_cons.2 ⟨by decide, List.forall_mem_map.2 fun f hf => ?_⟩
    exact List.forall_mem_cons.2
      ⟨by decide, List.forall_mem_singleton.2 (hfiles.names f hf).1⟩

theorem entryAt_plain (hf : f ∈ files) :
    (plainHost files).tree.entryAt ["w", f.1] = some (.file f.2) :=
  ((wellFormed_plain hfiles).entryAt_eq_some_iff (by simp)).2
    (List.mem_cons_of_mem _ (List.mem_map_of_mem hf))

theorem child_plain (hf : f ∈ files) : (pathOf ["w"]).child f.1 = pathOf ["w", f.1] :=
  Path.child_of_isPart (hfiles.names f hf).1.toIsPart

theorem entryOf_plain (hf : f ∈ files) :
    Host.entry? (plainHost files) (pathOf ["w", f.1]) = .ok (.file f.2) := by
  obtain ⟨hname, hsize⟩ := hfiles.names f hf
  have hentry := entryAt_plain hfiles hf
  have hway : Follows (plainHost files).tree maxLinks ["w"] [f.1] ["w", f.1] :=
    .enter rfl hname.notDot hname.notUp hsize hentry (by simp) .done
  have hlocate : (plainHost files).locate (pathOf ["w", f.1]) = .ok ["w", f.1] :=
    locate_eq_ok_iff.2 ⟨holdsNul_eq_false.2 (by simpa using hname.noNul),
      .enter rfl (by decide) (by decide) (by decide) rfl (by simp) hway⟩
  rw [Host.entry?, hlocate]
  dsimp only
  rw [hentry]
  rfl

/-- The walk finds the manifests among the files. -/
theorem exists_visits_plain : ∃ manifests,
    Visit.all (plainHost files) [] (pathOf ["w"]) = [⟨pathOf ["w"], .ok manifests⟩] ∧
      ∀ f ∈ files, isManifest (pathOf ["w", f.1]) = true → pathOf ["w", f.1] ∈ manifests := by
  obtain ⟨manifests, hall, hlisted⟩ := Visit.all_of_files (wellFormed_plain hfiles)
    (by decide : isIgnored [] (pathOf ["w"]) = false) childNames_plain
    (List.forall_mem_map.2 fun f hf => ⟨f.2, child_plain hfiles hf ▸ entryOf_plain hfiles hf⟩)
  refine ⟨manifests, hall, fun f hf hmanifest => (hlisted _).2 ⟨f.1, List.mem_map_of_mem hf, ?_⟩⟩
  rw [child_plain hfiles hf]
  exact ⟨rfl, hmanifest⟩

theorem readsOrReports_plain : ReadsOrReports (plainHost files) :=
  Manifest.readsOrReports_of_parse fun loc bytes hfile => by
    obtain ⟨f, hf, rfl⟩ := mem_plain_of_file hfile
    obtain hempty | hparse := hfiles.contents f hf
    · exact .inr (hempty ▸ parse_nil)
    · exact .inl ⟨_, hparse⟩

theorem requirements_plain {p : Path} {m : Manifest}
    (hok : readManifest (plainHost files) p = .ok m) : m.requirements = [] := by
  obtain ⟨bytes, root, hbytes, hroot⟩ := Manifest.exists_parse hok
  obtain ⟨loc, hfile⟩ := Manifest.exists_entryAt_of_readFile hbytes
  rw [readManifest_of_parse hbytes hroot] at hok
  obtain ⟨f, hf, rfl⟩ := mem_plain_of_file hfile
  obtain hempty | hparse := hfiles.contents f hf
  · rw [hempty, parse_nil] at hroot
    cases hroot
  · obtain rfl := Except.ok.inj (hparse.symm.trans hroot)
    cases hdocument : Manifest.ofDocument (plainHost files) p plainDocument with
    | error fault => simp [hdocument, Except.mapError] at hok
    | ok manifest =>
      rw [hdocument] at hok
      obtain rfl := Except.ok.inj hok
      obtain ⟨found, hfound, -, -, -, hrequirements⟩ := Manifest.exists_sections hdocument
      have hrequired : found.required = none := by
        unfold Manifest.sections at hfound
        split at hfound
        · cases hfound
        · exact Except.ok.inj hfound ▸ rfl
        · cases hfound
      rw [hrequired] at hrequirements
      exact (Except.ok.inj hrequirements).symm

/-- Every project is registered, and the scan ends well. -/
theorem scan_plain : ∃ t, outcome (scan (plainHost files) (.ofHost (plainHost files))
    (Path.ofString "/w")) {} = (.ok (), t) ∧ ∀ f ∈ files, Xml.parse f.2 = .ok plainDocument →
      ManifestKind.ofExtension (pathOf ["w", f.1]).extension = some .project →
      (t.workspace.registry.find? (pathOf ["w", f.1]).toString).isSome := by
  have hroot : Path.ofString "/w" = pathOf ["w"] := by decide
  obtain ⟨t, hok⟩ := scan_ends_of_no_requirements (s := {}) regular_plain
    (wellFormed_plain hfiles) (readsOrReports_plain hfiles) (by decide)
    (hroot ▸ isDirectory_plain) (fun _ _ => requirements_plain hfiles) rfl
  refine ⟨t, hok, fun f hf hparse hproject => ?_⟩
  obtain ⟨manifests, hvisits, hlisted⟩ := exists_visits_plain hfiles
  have hvisit : ⟨pathOf ["w"], .ok manifests⟩ ∈
      Visit.all (plainHost files) [] (Path.ofString "/w") := by
    rw [hroot, hvisits]
    exact List.mem_singleton_self _
  have hmanifest : isManifest (pathOf ["w", f.1]) = true := by
    rw [isManifest, hproject]
    rfl
  have hfile : (plainHost files).readFile (pathOf ["w", f.1]) = .ok f.2 := by
    rw [Host.readFile, entryOf_plain hfiles hf]
  have hread := readManifest_of_parse hfile hparse
  rw [ofDocument_plain hproject] at hread
  have hclean : Clean (plainHost files).tree ["w", f.1] := by
    have hdirectory : (plainHost files).tree.entryAt ["w"] = some .directory := rfl
    have hw : Clean (plainHost files).tree ["w"] :=
      .child .root (by decide) fun target => by simp [hdirectory]
    exact .child hw (hfiles.names f hf).1 fun target => by simp [entryAt_plain hfiles hf]
  exact noneLeftOut_of_scan rfl hok _ hvisit _ (hlisted f hf hmanifest) _ _
    (canonical_pathOf hclean) (by rw [ofString_pathOf hclean]; exact hread)

end Files

/-- Whichever of two projects of one name is enumerated first, both are registered, in one order. -/
theorem scan_order_irrelevant_plain :
    let host := plainHost [("a.lpi", plainFile), ("A.lpi", plainFile)]
    host.tree.WellFormed ∧ host.Reordered (backwards host) ∧
      ∃ t u, outcome (scan host (.ofHost host) (Path.ofString "/w")) {} = (.ok (), t) ∧
        outcome (scan (backwards host) (.ofHost (backwards host)) (Path.ofString "/w")) {} =
          (.ok (), u) ∧
        (t.workspace.registry.find? "/w/a.lpi").isSome ∧
        (t.workspace.registry.find? "/w/A.lpi").isSome ∧
        t.workspace.registry.packages = u.workspace.registry.packages := by
  intro host
  have hfiles : PlainFiles [("a.lpi", plainFile), ("A.lpi", plainFile)] :=
    { distinct := by decide, names := by decide, contents := by simp [parse_plain] }
  obtain ⟨t, hok, hfound⟩ := scan_plain hfiles
  have hordered := reordered_backwards host
  have hwellFormed := wellFormed_plain hfiles
  obtain ⟨hresult, hpackages, -⟩ :=
    scan_order_irrelevant hwellFormed hordered (Path.ofString "/w") {}
  rw [hok] at hresult hpackages
  have hlower := hfound ("a.lpi", plainFile) (by simp) parse_plain (by decide)
  have hupper := hfound ("A.lpi", plainFile) (by simp) parse_plain (by decide)
  refine ⟨hwellFormed, hordered, t, _, hok, ?_, hlower, hupper, hpackages⟩
  exact Prod.ext hresult.symm rfl

end Session

end PascalWorkspace
