import PascalWorkspace.Package.Source
import PascalWorkspace.Proofs.Manifest.Congruence
import PascalWorkspace.Proofs.Manifest.Reading

/-! Absolute paths on machines with the same file tree. All answers about them are the same,
whatever the working directory, the environment and the home directories of the machines are, and so
is what is read in a manifest at such a path. -/
namespace PascalWorkspace

theorem Path.Spelled.parent {p : Path} (hp : p.Spelled) : p.parent.Spelled :=
  ⟨hp.absolute, fun part hpart => hp.names part (List.mem_of_mem_dropLast hpart)⟩

namespace Host

variable {h h' : Host} {p base : Path} (htree : h'.tree = h.tree)

theorem start_of_absolute (hp : p.anchor ≠ .relative) : h.start p = [] := by
  have habsolute : p.isAbsolute = true := by simpa [Path.isAbsolute] using hp
  rw [start, habsolute, if_pos rfl]

section Absolute

variable (hp : p.anchor ≠ .relative)
include htree hp

theorem locate_of_tree : h.locate p = h'.locate p := by
  rw [locate, locate, htree, start_of_absolute hp, start_of_absolute hp]

theorem entryOf_of_tree : Host.entry? h p = Host.entry? h' p := by
  unfold Host.entry?
  rw [locate_of_tree htree hp, htree]

theorem test_of_tree (ask : Entry → Bool) : h.test ask p = h'.test ask p := by
  rw [test, test, entryOf_of_tree htree hp]

theorem readFile_of_tree : h.readFile p = h'.readFile p := by
  rw [readFile, readFile, entryOf_of_tree htree hp]

theorem childNames_of_tree : h.childNames p = h'.childNames p := by
  rw [childNames, childNames, locate_of_tree htree hp, htree]

theorem resolve_of_tree : h.resolve p = h'.resolve p := by
  have habsolute : p.isAbsolute = true := by simpa [Path.isAbsolute] using hp
  simp only [resolve, FileTree.canonicalPath, htree, habsolute, if_true]

end Absolute

include htree

theorem packageIn_of_tree (hp : p.anchor ≠ .relative) (name : String) :
    Manifest.packageIn h p name = Manifest.packageIn h' p name :=
  Manifest.packageIn_congr (test_of_tree htree (Path.absolute_child hp _) _)
    (congrArg (· >>= fun names => pure (Manifest.firstPackage names)) (childNames_of_tree htree hp))

/-- All that is asked about a manifest in an absolute directory is about absolute paths. -/
theorem sameAnswers_of_tree (hh : h.Regular) (hbase : base.Spelled) : h.SameAnswers h' base := by
  have habsolute {name : String} {p : Path} (hp : h.resolve (base.child name) = .ok p) :
      p.anchor ≠ .relative :=
    (spelled_of_resolve hh (fun part hpart => (Path.mem_parts_child hpart).elim
      (fun hown => (hbase.names part hown).noSlash) Path.IsPart.noSlash) hp).absolute
  exact
    { resolve := fun name => resolve_of_tree htree (Path.absolute_child hbase.absolute name)
      isDirectory := fun hp => test_of_tree htree (habsolute hp) _
      packageIn := fun hp _ package => packageIn_of_tree htree (habsolute hp) package }

theorem readManifest_of_tree (hh : h.Regular) (hp : p.Spelled) :
    readManifest h p = readManifest h' p :=
  readManifest_congr (sameAnswers_of_tree htree hh hp.parent) (readFile_of_tree htree hp.absolute)

theorem canonical_of_tree (hp : p.IsFull) : h.canonical p.toString = h'.canonical p.toString := by
  have htilde : ¬ p.BeginsWithTilde := fun htilde => hp.absolute htilde.1
  simp only [canonical, Path.ofString_toString hp.parts, expandHome_eq_self htilde, bind,
    Except.bind, resolve_of_tree htree hp.absolute]

end Host

end PascalWorkspace
