import Mathlib.Data.List.Induction
import Mathlib.Logic.Function.Iterate
import PascalWorkspace.Define.Publication

/-! What a directory sees: for each variable the paths of the defines that apply to the directory,
node by node. A package is seen from its directory and from every directory below, a plain directory
from itself alone. -/
namespace PascalWorkspace

namespace Path

variable {p q : Path}

/-- A directory is another one or one of the directories that contain it. -/
def Above (p q : Path) : Prop := ∃ n, parent^[n] q = p

theorem covers_iff : p.covers q = true ↔ p.anchor = q.anchor ∧ p.parts <+: q.parts := by
  simp [covers]

theorem covers_refl (p : Path) : p.covers p = true := covers_iff.2 ⟨rfl, List.prefix_refl _⟩

theorem covers_trans {r : Path} (hq : p.covers q = true) (hr : q.covers r = true) :
    p.covers r = true := by
  obtain ⟨hanchor, hparts⟩ := covers_iff.1 hq
  obtain ⟨hanchor', hparts'⟩ := covers_iff.1 hr
  exact covers_iff.2 ⟨hanchor.trans hanchor', hparts.trans hparts'⟩

/-- Components decide what a directory contains. -/
theorem covers_iff_above : p.covers q = true ↔ p.Above q := by
  rw [covers_iff]
  constructor
  · rintro ⟨hanchor, rest, hrest⟩
    induction rest using List.reverseRecOn generalizing q with
    | nil =>
      obtain ⟨anchor, parts⟩ := q
      obtain rfl : p.anchor = anchor := hanchor
      obtain rfl : p.parts = parts := by simpa using hrest
      exact ⟨0, rfl⟩
    | append_singleton rest name ih =>
      have hparent : p.parts ++ rest = q.parent.parts := by
        rw [parent, ← hrest, ← List.append_assoc, List.dropLast_concat]
      obtain ⟨n, hn⟩ := ih (q := q.parent) hanchor hparent
      exact ⟨n + 1, hn⟩
  · rintro ⟨n, hn⟩
    induction n generalizing q with
    | zero =>
      obtain rfl : q = p := hn
      exact ⟨rfl, List.prefix_refl _⟩
    | succ n ih =>
      obtain ⟨hanchor, hprefix⟩ := ih (q := q.parent) hn
      exact ⟨hanchor, hprefix.trans (List.dropLast_prefix _)⟩

instance (p q : Path) : Decidable (p.Above q) := decidable_of_iff _ covers_iff_above

end Path

/-- The search paths that belong to a variable. -/
def SearchPaths.of (paths : SearchPaths) (name : String) : List String :=
  if name = unitVariable then paths.units
  else if name = includeVariable then paths.includes
  else if name = sourceVariable then paths.sources
  else []

variable {t : DefineTree} {directory place name : String} {paths : List String}

def IsPathVariable (name : String) : Prop :=
  name = unitVariable ∨ name = includeVariable ∨ name = sourceVariable

/-- The path variables and their values. -/
def pathValues (value : String → List String) : DefineValues :=
  [(unitVariable, value unitVariable), (includeVariable, value includeVariable),
    (sourceVariable, value sourceVariable)]

theorem pathValues_congr {value other : String → List String}
    (h : ∀ name, IsPathVariable name → value name = other name) :
    pathValues value = pathValues other := by
  rw [pathValues, h _ (.inl rfl), h _ (.inr (.inl rfl)), h _ (.inr (.inr rfl)), pathValues]

/-- What some defines add to a variable. -/
def added (defines : List Define) (name : String) : List String :=
  (defines.filter (·.variableName == name)).flatMap (·.paths)

namespace DefineNode

/-- What a node adds to a variable for a directory. -/
def pathsAt (n : DefineNode) (directory name : String) : List String :=
  added (n.defines.filter (n.appliesTo directory)) name

end DefineNode

theorem append_pathValues {value : String → List String} (h : IsPathVariable name) :
    (pathValues value).append name paths =
      pathValues fun other => if name = other then value other ++ paths else value other := by
  obtain rfl | rfl | rfl := h <;>
    simp [pathValues, DefineValues.append, unitVariable, includeVariable, sourceVariable]

theorem foldl_append_pathValues {defines : List Define} {value : String → List String}
    (h : ∀ d ∈ defines, IsPathVariable d.variableName) :
    defines.foldl (fun values d => values.append d.variableName d.paths) (pathValues value) =
      pathValues fun name => value name ++ added defines name := by
  induction defines generalizing value with
  | nil => simp [added]
  | cons d rest ih =>
    obtain ⟨hd, hrest⟩ := List.forall_mem_cons.1 h
    rw [List.foldl_cons, append_pathValues hd, ih hrest]
    congr 1
    funext name
    unfold added
    rw [List.filter_cons]
    by_cases hname : d.variableName = name <;> simp [hname]

/-- Every path variable collects what the nodes add to it, in their order. -/
theorem valuesAt_eq (h : ∀ n ∈ t.nodes, ∀ d ∈ n.defines, IsPathVariable d.variableName) :
    t.valuesAt directory = pathValues fun name => t.nodes.flatMap (·.pathsAt directory name) := by
  have happlicable : ∀ d ∈ t.applicable directory, IsPathVariable d.variableName := by
    intro d hd
    obtain ⟨n, hn, hfilter⟩ := List.mem_flatMap.1 hd
    exact h n hn d (List.mem_filter.1 hfilter).1
  have hinitial : DefineValues.initial = pathValues fun _ => [] := rfl
  rw [DefineTree.valuesAt, hinitial, foldl_append_pathValues happlicable]
  congr 1
  funext name
  rw [List.nil_append, added, DefineTree.applicable, List.filter_flatMap, List.flatMap_assoc]
  rfl

/-! ### Nodes of packages and of directories -/

theorem isPathVariable_of_node {p : Package} {d : Define} (hd : d ∈ p.node.defines) :
    IsPathVariable d.variableName := by
  simp only [Package.node, List.mem_cons, List.not_mem_nil, or_false] at hd
  obtain rfl | rfl | rfl := hd
  · exact .inl rfl
  · exact .inr (.inl rfl)
  · exact .inr (.inr rfl)

theorem isPathVariable_of_directoryNode {d : Define} (hd : d ∈ (directoryNode directory).defines) :
    IsPathVariable d.variableName := by
  simp only [directoryNode, List.mem_cons, List.not_mem_nil, or_false] at hd
  obtain rfl | rfl := hd
  · exact .inl rfl
  · exact .inr (.inl rfl)

/-- The paths of a package are seen from its directory and from all below. -/
theorem pathsAt_node (p : Package) (hname : IsPathVariable name) :
    p.node.pathsAt place name =
      if (Path.ofString p.directory).Above (Path.ofString place) then p.mergedPaths.of name
      else [] := by
  have happlies (d : Define) (hd : d.recursive = true) : p.node.appliesTo place d =
      (Path.ofString p.directory).covers (Path.ofString place) := by
    rw [DefineNode.appliesTo, hd, Bool.true_and]
    dsimp only [Package.node]
    by_cases heq : Path.ofString place = Path.ofString p.directory
    · rw [heq, Path.covers_refl, Bool.or_true]
    · rw [beq_eq_false_iff_ne.2 heq, Bool.false_or]
  have hfilter : p.node.defines.filter (p.node.appliesTo place) =
      if (Path.ofString p.directory).Above (Path.ofString place) then p.node.defines else [] := by
    have hall : ∀ d ∈ p.node.defines, d.recursive = true := by
      simp [Package.node, Define.addUnits, Define.addIncludes, Define.addSources]
    rw [List.filter_congr fun d hd => happlies d (hall d hd)]
    by_cases h : (Path.ofString p.directory).Above (Path.ofString place)
    · simp [h, Path.covers_iff_above.2 h]
    · have hcovers := mt Path.covers_iff_above.1 h
      simp [h, hcovers]
  have hadded : added p.node.defines name = p.mergedPaths.of name := by
    obtain rfl | rfl | rfl := hname <;>
      simp [added, Package.node, Define.addUnits, Define.addIncludes, Define.addSources,
        SearchPaths.of, unitVariable, includeVariable, sourceVariable]
  rw [DefineNode.pathsAt, hfilter]
  split
  · exact hadded
  · rfl

theorem flatMap_pathsAt_node (order : List Package) (hname : IsPathVariable name) :
    (order.map Package.node).flatMap (·.pathsAt place name) =
      (order.filter fun p => (Path.ofString p.directory).Above (Path.ofString place)).flatMap
        (·.mergedPaths.of name) := by
  induction order with
  | nil => rfl
  | cons p rest ih =>
    rw [List.map_cons, List.flatMap_cons, pathsAt_node p hname, ih, List.filter_cons]
    by_cases h : (Path.ofString p.directory).Above (Path.ofString place) <;> simp [h]

theorem appliesTo_directoryNode {d : Define} (hd : d ∈ (directoryNode directory).defines) :
    (directoryNode directory).appliesTo place d =
      (Path.ofString place == Path.ofString directory) := by
  have hplain : d.recursive = false := by
    simp only [directoryNode, List.mem_cons, List.not_mem_nil, or_false] at hd
    obtain rfl | rfl := hd <;> rfl
  rw [DefineNode.appliesTo, hplain, Bool.false_and, Bool.or_false]
  rfl

/-- A plain directory adds nothing elsewhere. -/
theorem pathsAt_directoryNode_of_ne (h : Path.ofString place ≠ Path.ofString directory) :
    (directoryNode directory).pathsAt place name = [] := by
  have hfilter : (directoryNode directory).defines.filter
      ((directoryNode directory).appliesTo place) = [] := by
    rw [List.filter_congr fun d hd => appliesTo_directoryNode hd]
    simp [h]
  rw [DefineNode.pathsAt, hfilter]
  rfl

/-- A plain directory is on its own unit and include paths. -/
theorem pathsAt_directoryNode_self (hname : IsPathVariable name) :
    (directoryNode place).pathsAt place name = if name = sourceVariable then [] else [place] := by
  have hfilter : (directoryNode place).defines.filter ((directoryNode place).appliesTo place) =
      (directoryNode place).defines := by
    rw [List.filter_congr fun d hd => appliesTo_directoryNode hd]
    simp
  rw [DefineNode.pathsAt, hfilter]
  obtain rfl | rfl | rfl := hname <;>
    simp [added, directoryNode, Define.addUnits, Define.addIncludes, unitVariable,
      includeVariable, sourceVariable]

end PascalWorkspace
