import PascalWorkspace.Proofs.FileTree.Congruence
import PascalWorkspace.Proofs.Host.Canonical
import PascalWorkspace.Proofs.Manifest.Congruence
import PascalWorkspace.Proofs.Walk.Listing

/-! Machines that differ in nothing but the order in which their directories are enumerated. They
answer every question alike, and list the same in every directory. -/
namespace PascalWorkspace

/-- The same machine with the entries of its file tree in another order. -/
structure Host.Reordered (h h' : Host) : Prop where
  entries : h.tree.entries.Perm h'.tree.entries
  rest : h' = { h with tree := h'.tree }

namespace Host

open FileTree

variable {h h' : Host} {p directory : Path}

section Reordered

variable (ht : h.tree.WellFormed) (hh : h.Reordered h')
include ht hh

theorem Reordered.entryAt (loc : Location) : h.tree.entryAt loc = h'.tree.entryAt loc :=
  ht.entryAt_perm hh.entries loc

theorem Reordered.locate (p : Path) : h.locate p = h'.locate p := by
  have hstart : h.start p = h'.start p := by rw [hh.rest, Host.start, Host.start]
  rw [Host.locate, Host.locate, FileTree.locate, FileTree.locate, hstart,
    follow_congr (hh.entryAt ht)]

theorem Reordered.entryOf (p : Path) : h.entry? p = h'.entry? p := by
  simp only [hh.locate ht, hh.entryAt ht, Host.entry?]

theorem Reordered.isFile (p : Path) : h.isFile p = h'.isFile p := by
  rw [Host.isFile, Host.isFile, Host.test, Host.test, hh.entryOf ht]

theorem Reordered.isDirectory (p : Path) : h.isDirectory p = h'.isDirectory p := by
  rw [Host.isDirectory, Host.isDirectory, Host.test, Host.test, hh.entryOf ht]

theorem Reordered.isLink (p : Path) : h.isLink p = h'.isLink p := by
  simp only [Host.isLink, hh.locate ht, hh.entryAt ht]

theorem Reordered.readFile (p : Path) : h.readFile p = h'.readFile p := by
  rw [Host.readFile, Host.readFile, hh.entryOf ht]

theorem Reordered.resolve (p : Path) : h.resolve p = h'.resolve p := by
  have hpath : h.tree.canonicalPath h.cwd p = h'.tree.canonicalPath h'.cwd p := by
    rw [(sameLinks_of_entryAt (hh.entryAt ht)).canonicalPath (linkCount_perm hh.entries), hh.rest]
  simp only [Host.resolve, hpath, FileTree.locate, follow_congr (hh.entryAt ht)]

theorem Reordered.canonical (text : String) : h.canonical text = h'.canonical text :=
  canonical_congr hh.rest (hh.resolve ht) text

/-- A directory has the same names in it, in whatever order. -/
theorem Reordered.childNames (directory : Path) :
    (∃ names names', h.childNames directory = .ok names ∧ h'.childNames directory = .ok names' ∧
      names.Perm names') ∨
    ∃ e, h.childNames directory = .error e ∧ h'.childNames directory = .error e := by
  simp only [Host.childNames, ← hh.locate ht, ← hh.entryAt ht,
    ← fun loc => refusalAt_congr (hh.entryAt ht loc)]
  cases h.locate directory with
  | error e => exact .inr ⟨e, rfl, rfl⟩
  | ok loc =>
    dsimp only
    split
    · exact .inl ⟨_, _, rfl, rfl, childNames_perm hh.entries loc⟩
    · exact .inr ⟨_, rfl, rfl⟩

theorem Reordered.packageIn (directory : Path) (name : String) :
    Manifest.packageIn h directory name = Manifest.packageIn h' directory name := by
  refine Manifest.packageIn_congr (hh.isFile ht _) ?_
  obtain ⟨names, names', hnames, hnames', hperm⟩ | ⟨e, he, he'⟩ := hh.childNames ht directory
  · rw [hnames, hnames']
    exact congrArg Except.ok (Manifest.firstPackage_congr (hperm.filter _))
  · rw [he, he']

theorem Reordered.sameAnswers (base : Path) : h.SameAnswers h' base where
  resolve name := hh.resolve ht (base.child name)
  isDirectory {_ p} _ := hh.isDirectory ht p
  packageIn {_ p} _ _ package := hh.packageIn ht p package

theorem Reordered.readManifest (p : Path) : readManifest h p = readManifest h' p :=
  readManifest_congr (hh.sameAnswers ht _) (hh.readFile ht p)

theorem Reordered.source : ManifestSource.ofHost h = ManifestSource.ofHost h' := by
  simp only [ManifestSource.ofHost, hh.readManifest ht, pathBound_perm hh.entries]
  congr 1
  exact funext (hh.canonical ht)

theorem Reordered.listsAlike (directory : Path) :
    ListsAlike (fun _ => False) h h' directory := by
  obtain ⟨names, names', hnames, hnames', hperm⟩ | ⟨e, he, he'⟩ := hh.childNames ht directory
  · refine .listed hnames hnames' ⟨hperm.subset, fun name _ => ?_, fun name _ => ?_,
      fun name hname => .inl (hperm.mem_iff.2 hname)⟩
    · exact .inl (by rw [isManifestFile, isManifestFile, hh.isFile ht])
    · rw [isRealDirectory, isRealDirectory, hh.isDirectory ht, hh.isLink ht]
  · exact .failed he he'

/-- A walk visits the same directories, and finds the same manifests in the same order. -/
theorem Reordered.alike_all (ignored : List String) (root : Path) :
    List.Forall₂ (Visit.Alike fun _ => False) (Visit.all h ignored root)
      (Visit.all h' ignored root) :=
  Visit.alike_all ht (depth_perm hh.entries).le (fun d =>
    Visit.sameListing_of_listsAlike ht (ht.perm hh.entries) (hh.listsAlike ht d)) ignored root

end Reordered

end Host

end PascalWorkspace
