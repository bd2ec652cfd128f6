import PascalWorkspace.Proofs.Session.InStep
import PascalWorkspace.Proofs.Session.Integrity

/-! Names in letters of either case. Manifests in which the names of packages are spelled in
different cases lead to the same packages, ties, search paths and defines. -/
namespace PascalWorkspace

open Operation

/-- Two manifests in memory that only spell the names of packages differently. -/
structure SameButNames (x y : String × Manifest) : Prop where
  path : x.1 = y.1
  manifest : x.2.Alike .caseless y.2

theorem rel_lookup {table table' : List (String × Manifest)}
    (h : List.Forall₂ SameButNames table table') (path : String) :
    Option.Rel (Manifest.Alike .caseless) (table.lookup path) (table'.lookup path) := by
  induction h with
  | nil => exact .none
  | @cons x y _ _ hxy _ ih =>
    obtain ⟨key, m⟩ := x
    obtain ⟨key', n⟩ := y
    obtain rfl : key = key' := hxy.path
    by_cases hkey : path == key
    · rw [List.lookup_cons, List.lookup_cons, hkey]
      exact .some hxy.manifest
    · rw [List.lookup_cons, List.lookup_cons, Bool.eq_false_iff.2 hkey]
      exact ih

theorem alike_ofTable (h : Host) {table table' : List (String × Manifest)}
    (htables : List.Forall₂ SameButNames table table') :
    ManifestSource.Alike .caseless Never (.ofTable h table) (.ofTable h table') where
  canonical _ := rfl
  read key := by
    have hread := rel_lookup htables key
    unfold ManifestSource.ofTable
    dsimp only
    generalize table.lookup key = found at hread ⊢
    generalize table'.lookup key = found' at hread ⊢
    cases hread with
    | none => exact .same _
    | some hmn => exact .ok trivial hmn
  capacity := .inl htables.length_eq

namespace Session

/-- What can be done with a session, apart from where manifests are read. -/
inductive Move where
  | register (path : String)
  | resolve (key : String)
  | repair (key : String)
  | mergePaths (key : String)
  | publish (key : String)
  | resolveBelow (h : Host) (ignored : List String) (directory : Path)
  | repairBelow (h : Host) (ignored : List String) (directory : Path)
  | publishBelow (h : Host) (ignored : List String) (directory : Path)
  | scan (h : Host) (root : Path)

def Move.call (source : ManifestSource) : Move → Call
  | .register path => .register source path
  | .resolve key => .resolve source key
  | .repair key => .repair key
  | .mergePaths key => .mergePaths key
  | .publish key => .publish key
  | .resolveBelow h ignored directory => .resolveBelow h source ignored directory
  | .repairBelow h ignored directory => .repairBelow h source ignored directory
  | .publishBelow h ignored directory => .publishBelow h source ignored directory
  | .scan h root => .scan h source root

variable {L : Likeness} {a b : ManifestSource} {s t : Session}

theorem alike_after {α β : Type} {Q : α → β → Prop} {act : Action α} {act' : Action β}
    (hact : Workspace.Matches L Never Q act act') (hst : s.Alike L t) :
    (after (onWorkspace act) s).Alike L (after (onWorkspace act') t) :=
  (inStep_onWorkspace hact s t hst).state

/-- Sessions stay in step through one move, whether it fails or not. -/
theorem alike_perform (hab : a.Alike L Never b) (hst : s.Alike L t) (m : Move) :
    (s.perform (m.call a)).Alike L (t.perform (m.call b)) := by
  have hwalk (h : Host) (ignored : List String) (root : Path) :
      h.Alike (b.PassesOver L) ignored root h := h.alike_refl ignored root
  cases m with
  | register path =>
    obtain ⟨w, rfl, hw⟩ := hst
    have hanswered := (Workspace.answered_register hab path hw).state
    rw [Move.call, Move.call, perform, perform, after, after, outcome_onWorkspace,
      outcome_onWorkspace]
    exact ⟨_, rfl, hanswered⟩
  | resolve key => exact alike_after (Workspace.matches_resolve hab key) hst
  | repair key => exact alike_after (Workspace.matches_repair key) hst
  | mergePaths key => exact alike_after (Workspace.matches_mergePaths key) hst
  | publish key => exact alike_after (Workspace.matches_publish key) hst
  | resolveBelow h ignored root =>
    exact alike_after (Workspace.matches_resolveBelow hab (hwalk h ignored root)) hst
  | repairBelow h ignored root =>
    exact alike_after (Workspace.matches_repairBelow hab (hwalk h ignored root)) hst
  | publishBelow h ignored root =>
    exact alike_after (Workspace.matches_publishBelow hab (hwalk h ignored root)) hst
  | scan h root => exact (agree_scan hab (hwalk h _ root) hst).state

theorem alike_performAll (hab : a.Alike L Never b) (hst : s.Alike L t) (moves : List Move) :
    (s.performAll (moves.map (·.call a))).Alike L (t.performAll (moves.map (·.call b))) := by
  induction moves generalizing s t with
  | nil => exact hst
  | cons m moves ih => exact ih (alike_perform hab hst m)

/-- Whatever is done, two sessions over manifests that differ in the case of names have the same
packages in the same order, tied to one another, merged and published in the same way, and the same
defines for the same directories. -/
theorem case_insensitive (h : Host) {table table' : List (String × Manifest)}
    (htables : List.Forall₂ SameButNames table table') (moves : List Move) :
    let s := ({} : Session).performAll (moves.map (·.call (.ofTable h table)))
    let t := ({} : Session).performAll (moves.map (·.call (.ofTable h table')))
    List.Forall₂ (Package.Alike .caseless) s.workspace.registry.packages
      t.workspace.registry.packages ∧
    (∀ name name', Text.lowercase name = Text.lowercase name' →
      s.workspace.registry.lookup? name = t.workspace.registry.lookup? name') ∧
    List.Forall₂ (fun m n : DefineNode => m.directory = n.directory ∧ m.defines = n.defines)
      s.workspace.defines.nodes t.workspace.defines.nodes ∧
    s.manifestsFound = t.manifestsFound := by
  intro s t
  have hfresh : ({} : Session).Alike .caseless {} := ⟨{}, rfl, ⟨.nil, rfl⟩, .nil⟩
  have hst : s.Alike .caseless t := alike_performAll (alike_ofTable h htables) hfresh moves
  refine ⟨hst.workspace.registry.packages, ?_, ?_, hst.manifestsFound.symm⟩
  · exact fun name name' hname => hst.workspace.registry.lookup? hname
  · exact hst.workspace.defines.imp fun m n hmn => hmn.directory

/-- Two packages, each of which needs the other. -/
def mutualTable (first second : String) : List (String × Manifest) :=
  [("/a", ⟨first, "/", {}, [⟨second, "", false⟩]⟩), ("/b", ⟨second, "/", {}, [⟨first, "", false⟩]⟩)]

theorem mutualTable_alike : List.Forall₂ SameButNames (mutualTable "App" "Lib")
    (mutualTable "APP" "lib") := by
  have happ : Likeness.caseless.names "App" "APP" := by
    change Text.lowercase "App" = Text.lowercase "APP"
    cbv
  have hlib : Likeness.caseless.names "Lib" "lib" := by
    change Text.lowercase "Lib" = Text.lowercase "lib"
    cbv
  exact .cons ⟨rfl, happ, rfl, rfl, .cons ⟨hlib, rfl, rfl⟩ .nil⟩
    (.cons ⟨rfl, hlib, rfl, rfl, .cons ⟨happ, rfl, rfl⟩ .nil⟩ .nil)

def mutualMoves : List Move := [.register "/b", .register "/a", .resolve "/a"]

theorem targets_mutual : (({} : Session).performAll (mutualMoves.map
    (·.call (.ofTable bareHost (mutualTable "App" "Lib"))))).workspace.registry.packages.map
      (·.targets) = [["/a"], ["/b"]] := by cbv

/-- The ties are the same in capital letters and in small ones. -/
theorem case_insensitive_mutual :
    List.Forall₂ SameButNames (mutualTable "App" "Lib") (mutualTable "APP" "lib") ∧
      (({} : Session).performAll (mutualMoves.map
        (·.call (.ofTable bareHost (mutualTable "APP" "lib"))))).workspace.registry.packages.map
          (·.targets) = [["/a"], ["/b"]] := by
  obtain ⟨hpackages, -⟩ := case_insensitive bareHost mutualTable_alike mutualMoves
  refine ⟨mutualTable_alike, Eq.trans ?_ targets_mutual⟩
  rw [← List.forall₂_eq_eq_eq, List.forall₂_map_left_iff, List.forall₂_map_right_iff]
  exact hpackages.flip.imp fun q p hpq => hpq.targets.symm

end Session

end PascalWorkspace
