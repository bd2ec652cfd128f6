import PascalWorkspace.Proofs.Manifest.Faults
import PascalWorkspace.Proofs.Manifest.Shape
import PascalWorkspace.Proofs.Session.Configuration
import PascalWorkspace.Proofs.Session.Success
import PascalWorkspace.Proofs.Walk.Usable

/-! Manifests as a registry gets them. All that is asked for later stands in them as absolute paths,
so it does not depend on the working directory or on home directories. One that cannot be read is
left out, unless its document names an encoding that is not supported. -/
namespace PascalWorkspace

/-- A source gives the same package as another one if it does so under the key of the manifest. -/
theorem Workspace.register_congr {a b : ManifestSource} {path : String}
    (hcanonical : a.canonical path = b.canonical path)
    (hread : ∀ key, b.canonical path = .ok key → a.read key = b.read key) :
    register a path = register b path := by
  unfold register
  rw [hcanonical]
  cases hkey : b.canonical path with
  | error e => rfl
  | ok key =>
    rw [ofPathResult, pure_bind, pure_bind, hread key hkey]

namespace Manifest

open Host Operation Session

/-- The data of every manifest that could be read at an absolute path in normal form is well shaped.
It is the same on every machine with the same file tree, and so is what becomes of asking for the
manifests that it hints at. -/
theorem wellShaped_of_readManifest (h : Host) (hh : h.Regular) (ht : h.tree.WellFormed)
    {path : Path} (hpath : path.Spelled) {m : Manifest} (hok : readManifest h path = .ok m) :
    (∃ root found, readDocument h path = .ok (.ok root) ∧
      sections (ManifestKind.ofExtension path.extension) root = .ok found ∧
      m.WellShaped path found) ∧
    ∀ h' : Host, h'.tree = h.tree → readManifest h' path = .ok m ∧
      ∀ q ∈ m.requirements, q.hint ≠ "" →
        Workspace.register (.ofHost h') q.hint = Workspace.register (.ofHost h) q.hint := by
  obtain ⟨root, hroot, hdocument⟩ := exists_ofDocument hok
  obtain ⟨found, hfound, hshape⟩ := wellShaped_of_ofDocument hh ht hpath hdocument
  refine ⟨⟨root, found, hroot, hfound, hshape⟩, fun h' htree => ⟨?_, fun q hq hne => ?_⟩⟩
  · rw [← readManifest_of_tree htree hh hpath, hok]
  · obtain hempty | ⟨p, hp, htext⟩ := hshape.hints q hq
    · exact absurd hempty hne
    · rw [htext]
      refine Workspace.register_congr (canonical_of_tree htree hp).symm fun key hkey => ?_
      obtain ⟨place, hplace, rfl⟩ := exists_spelled_of_canonical hh hkey
      have hread := readManifest_of_tree htree hh hplace
      rw [← hplace.ofString_toString] at hread
      exact hread.symm

/-- The hint of the package leads through a directory to an absolute path. -/
theorem wellShaped_of_readManifest_needy :
    let h := needyHost needyFile
    let moved := { h with cwd := ["d"], environment := [("HOME", "/d")], homes := [("root", "/w")] }
    h.Regular ∧ h.tree.WellFormed ∧ needyPath.Spelled ∧
      readManifest h needyPath = .ok needyManifest ∧
      (∃ found, needyManifest.WellShaped needyPath found) ∧
      readManifest moved needyPath = .ok needyManifest ∧
      Workspace.register (.ofHost moved) "/d/x.lpk" =
        Workspace.register (.ofHost h) "/d/x.lpk" := by
  intro h moved
  have hregular : h.Regular := regular_needy needyFile
  have hwellFormed : h.tree.WellFormed := wellFormed_needy needyFile
  have hspelled : needyPath.Spelled := ⟨by decide, by decide⟩
  have hread : readManifest h needyPath = .ok needyManifest := readManifest_needy _ parse_needy
  obtain ⟨⟨root, found, -, -, hshape⟩, hsame⟩ :=
    wellShaped_of_readManifest h hregular hwellFormed hspelled hread
  obtain ⟨hmoved, hregister⟩ := hsame moved rfl
  have hhint := hregister ⟨"B", "/d/x.lpk", false⟩ List.mem_cons_self (by decide)
  exact ⟨hregular, hwellFormed, hspelled, hread, ⟨found, hshape⟩, hmoved, hhint⟩

/-- A manifest is read, or it is told with its path what is wrong with it, so that a registry can
always be asked for it. The exceptions are documents that name an encoding which is not supported:
they fail in a way of their own. -/
theorem told_unless_unsupported (h : Host) {path : Path} (hnul : holdsNul path = false) :
    (ReadsOrTells h path ∧ ¬ NamesUnsupported h path ∧
      ∀ text key, h.canonical text = .ok key → Path.ofString key = path → ∀ w, ∃ answer v,
        outcome (Workspace.tryRegister (.ofHost h) text) w = (.ok answer, v)) ∨
    (NamesUnsupported h path ∧ (readManifest h path = .error .unknownEncoding ∨
      readManifest h path = .error .multiByteEncoding)) := by
  refine (readsOrTells_or_unsupported hnul).imp_left fun ⟨htold, hsupported⟩ => ?_
  refine ⟨htold, hsupported, fun text key hkey hpath w => ?_⟩
  subst hpath
  have hanswerable : Workspace.Answerable (.ofHost h) text := by
    refine ⟨key, hkey, ?_⟩
    obtain hread | ⟨fault, -, hread⟩ := htold
    · exact .inl hread
    · exact .inr ⟨_, fault, hread⟩
  obtain ⟨answer, v, hasked, -⟩ :=
    (Workspace.failsAs_tryRegister_of_answerable hanswerable).exists_ok trivial
  exact ⟨answer, v, hasked⟩

/-- A registry can be asked for a package that can be read. -/
theorem told_unless_unsupported_needy : holdsNul needyPath = false ∧
    (needyHost needyFile).canonical needyPath.toString = .ok "/w/a.lpk" ∧
    ∀ w, ∃ answer v, outcome (Workspace.tryRegister (.ofHost (needyHost needyFile))
      needyPath.toString) w = (.ok answer, v) := by
  have hnul : holdsNul needyPath = false := by decide
  have hread := readManifest_needy needyFile parse_needy
  have hkey := (canonical_needy needyFile).1
  refine ⟨hnul, hkey, ?_⟩
  obtain ⟨-, -, hasked⟩ | ⟨-, hfails⟩ := told_unless_unsupported (needyHost needyFile) hnul
  · exact hasked _ _ hkey (by decide)
  · rw [hread] at hfails
    simp at hfails

/-- Nothing is told of a document that names an encoding which nobody knows. -/
theorem not_readsOrTells_stray : holdsNul needyPath = false ∧
    readManifest (needyHost Handshake.strayFile) needyPath = .error .unknownEncoding ∧
    ¬ ReadsOrTells (needyHost Handshake.strayFile) needyPath := by
  have hfile : (needyHost Handshake.strayFile).readFile needyPath = .ok Handshake.strayFile := by
    rw [Host.readFile, Host.entry?, (locate_needy _).2]
    rfl
  have hread : readManifest (needyHost Handshake.strayFile) needyPath =
      .error .unknownEncoding := by
    rw [readManifest, readDocument, hfile]
    dsimp only
    rw [Handshake.parse_stray]
    rfl
  refine ⟨by decide, hread, ?_⟩
  rintro (⟨m, hm⟩ | ⟨fault, -, hfault⟩)
  · cases hread.symm.trans hm
  · cases hread.symm.trans hfault

end Manifest

end PascalWorkspace
