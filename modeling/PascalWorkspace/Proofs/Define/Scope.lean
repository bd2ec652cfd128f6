import PascalWorkspace.Proofs.Define.Values
import PascalWorkspace.Proofs.Entries
import PascalWorkspace.Proofs.Host.Keys

/-! Which defines a directory sees. Components decide: a recursive define reaches down to every
directory whose components begin with those of its node. Each variable collects the paths of the
defines that apply, in the order of the nodes and of the defines in a node. -/
namespace PascalWorkspace

namespace Path

variable {p q : Path}

/-- The components of a path: its root, if it has one, and its names. -/
def components (p : Path) : List String :=
  match p.anchor with
  | .relative => p.parts
  | anchor => anchorText anchor :: p.parts

theorem components_relative (hp : p.anchor = .relative) : p.components = p.parts := by
  rw [components, hp]

theorem components_absolute (hp : p.anchor ≠ .relative) :
    p.components = anchorText p.anchor :: p.parts := by
  obtain ⟨anchor, parts⟩ := p
  cases anchor with
  | relative => exact absurd rfl hp
  | _ => rfl

theorem slash_mem_anchorText {anchor : Anchor} (h : anchor ≠ .relative) :
    '/' ∈ (anchorText anchor).toList := by
  cases anchor with
  | relative => exact absurd rfl h
  | _ => decide

theorem anchorText_injective {a b : Anchor} (h : anchorText a = anchorText b) : a = b := by
  cases a <;> cases b <;> first | rfl | exact absurd h (by decide)

/-- An absolute path is contained exactly in the paths with components that its own begin with. A
path without components contains relative paths only. -/
theorem covers_iff_components (hp : ∀ part ∈ p.parts, IsPart part) (hq : q.anchor ≠ .relative) :
    p.covers q = true ↔ p.components ≠ [] ∧ p.components <+: q.components := by
  rw [covers_iff, components_absolute hq]
  by_cases hrelative : p.anchor = .relative
  · rw [components_relative hrelative]
    refine iff_of_false (fun h => hq (h.1 ▸ hrelative)) ?_
    rintro ⟨hne, hcomponents⟩
    cases hparts : p.parts with
    | nil => exact hne hparts
    | cons first rest =>
      -- The root of an absolute path is no name.
      rw [hparts, List.cons_prefix_cons] at hcomponents
      have hfirst := hp first (hparts ▸ List.mem_cons_self)
      exact hfirst.noSlash (hcomponents.1 ▸ slash_mem_anchorText hq)
  · rw [components_absolute hrelative, List.cons_prefix_cons]
    exact ⟨fun h => ⟨List.cons_ne_nil _ _, congrArg anchorText h.1, h.2⟩,
      fun h => ⟨anchorText_injective h.2.1, h.2.2⟩⟩

/-- An absolute path is determined by its components. -/
theorem eq_iff_components (hp : ∀ part ∈ p.parts, IsPart part) (hq : q.anchor ≠ .relative) :
    p = q ↔ p.components = q.components := by
  refine ⟨congrArg components, fun h => ?_⟩
  have hne : p.components ≠ [] := by
    rw [h, components_absolute hq]
    exact List.cons_ne_nil _ _
  have hcovers := (covers_iff_components hp hq).2 ⟨hne, h ▸ List.prefix_refl _⟩
  have hanchor : p.anchor = q.anchor := (covers_iff.1 hcovers).1
  rw [components_absolute hq, components_absolute (hanchor ▸ hq)] at h
  obtain ⟨anchor, parts⟩ := p
  obtain ⟨anchor', parts'⟩ := q
  obtain rfl : anchor = anchor' := hanchor
  obtain rfl : parts = parts' := (List.cons.inj h).2
  rfl

end Path

variable {n : DefineNode} {d : Define} {directory place name other : String} {paths : List String}
  {values : DefineValues} {t : DefineTree} {h : Host}

/-- A define of a node applies to a directory: the components of the node's directory are those of
the directory or, for a recursive define, some that the directory's components begin with. -/
def DefineNode.Reaches (n : DefineNode) (d : Define) (directory : String) : Prop :=
  let scope := (Path.ofString n.directory).components
  let components := (Path.ofString directory).components
  scope = components ∨ d.recursive = true ∧ scope ≠ [] ∧ scope <+: components

instance (n : DefineNode) (d : Define) (directory : String) : Decidable (n.Reaches d directory) :=
  inferInstanceAs (Decidable (_ ∨ _ ∧ _ ∧ _))

theorem DefineNode.appliesTo_iff (hplace : (Path.ofString place).anchor ≠ .relative) :
    n.appliesTo place d = true ↔ n.Reaches d place := by
  have hparts : ∀ part ∈ (Path.ofString n.directory).parts, Path.IsPart part :=
    fun part => Path.isPart_of_mem_ofString
  rw [appliesTo, Bool.or_eq_true, Bool.and_eq_true, beq_iff_eq, eq_comm,
    Path.eq_iff_components hparts hplace, Path.covers_iff_components hparts hplace]
  rfl

/-! ### The values of all variables -/

namespace DefineValues

/-- The value of a variable, empty for a variable that has none. -/
def get (values : DefineValues) (name : String) : List String := (values.lookup name).getD []

theorem append_eq (values : DefineValues) (name : String) (paths : List String) :
    values.append name paths = Entries.upsert values name fun old => old.getD [] ++ paths := rfl

/-- Only the variable that is appended to changes. -/
theorem get_append : (values.append name paths).get other =
    if other = name then values.get name ++ paths else values.get other := by
  rw [append_eq, get, Entries.lookup_upsert]
  split <;> rfl

/-- The values after some defines, one after the other. -/
def appendAll (values : DefineValues) (defines : List Define) : DefineValues :=
  defines.foldl (fun values d => values.append d.variableName d.paths) values

theorem get_appendAll {defines : List Define} :
    (values.appendAll defines).get name = values.get name ++ added defines name := by
  induction defines generalizing values with
  | nil => simp [appendAll, added]
  | cons d defines ih =>
    have hstep : values.appendAll (d :: defines) =
        (values.append d.variableName d.paths).appendAll defines := rfl
    rw [hstep, ih, get_append]
    by_cases h : name = d.variableName
    · simp [added, h]
    · simp [added, h, Ne.symm h]

theorem mem_keys_appendAll {defines : List Define} :
    name ∈ (values.appendAll defines).map (·.1) ↔
      name ∈ values.map (·.1) ∨ ∃ d ∈ defines, d.variableName = name := by
  induction defines generalizing values with
  | nil => simp [appendAll]
  | cons d defines ih =>
    have hstep : values.appendAll (d :: defines) =
        (values.append d.variableName d.paths).appendAll defines := rfl
    rw [hstep, ih, append_eq, Entries.mem_keys_upsert, or_assoc, @eq_comm _ name, List.exists_mem_cons_iff]

theorem nodup_appendAll {defines : List Define} (h : (values.map (·.1)).Nodup) :
    ((values.appendAll defines).map (·.1)).Nodup := by
  induction defines generalizing values with
  | nil => exact h
  | cons d defines ih =>
    have hnext : ((values.append d.variableName d.paths).map (·.1)).Nodup := by
      rw [append_eq]
      exact Entries.nodup_upsert h
    exact ih hnext

end DefineValues

namespace DefineTree

/-- What a directory sees of a variable: the paths of the defines that apply to it, in the order of
the nodes and of the defines in a node. -/
def seen (t : DefineTree) (directory name : String) : List String :=
  t.nodes.flatMap fun n =>
    (n.defines.filter fun d => n.Reaches d directory ∧ d.variableName = name).flatMap (·.paths)

/-- The part of it that comes from recursive defines. -/
def inheritable (t : DefineTree) (directory name : String) : List String :=
  t.nodes.flatMap fun n =>
    (n.defines.filter fun d => d.recursive = true ∧ n.Reaches d directory ∧
      d.variableName = name).flatMap (·.paths)

theorem added_applicable (hplace : (Path.ofString place).anchor ≠ .relative) :
    added (t.applicable place) name = t.seen place name := by
  rw [added, applicable, List.filter_flatMap, List.flatMap_assoc, seen]
  congr 1
  funext n
  rw [List.filter_filter]
  congr 1
  refine List.filter_congr fun d _ => ?_
  rw [Bool.eq_iff_iff, Bool.and_eq_true, beq_iff_eq, DefineNode.appliesTo_iff hplace,
    decide_eq_true_iff, and_comm]

theorem seen_append (xs ys : List DefineNode) :
    (⟨xs ++ ys⟩ : DefineTree).seen directory name =
      (⟨xs⟩ : DefineTree).seen directory name ++ (⟨ys⟩ : DefineTree).seen directory name :=
  List.flatMap_append

end DefineTree

/-- A recursive define that reaches a directory reaches every directory below. -/
theorem DefineNode.Reaches.below {below : String} (h : n.Reaches d place)
    (hrecursive : d.recursive = true) (hplace : (Path.ofString place).anchor ≠ .relative)
    (hbelow : (Path.ofString place).components <+: (Path.ofString below).components) :
    n.Reaches d below := by
  have hne : (Path.ofString place).components ≠ [] := by
    rw [Path.components_absolute hplace]
    exact List.cons_ne_nil _ _
  obtain hsame | ⟨-, hscope, hprefix⟩ := h
  · exact .inr ⟨hrecursive, hsame ▸ hne, hsame ▸ hbelow⟩
  · exact .inr ⟨hrecursive, hscope, hprefix.trans hbelow⟩

namespace DefineTree

theorem inheritable_sublist {below : String} (hplace : (Path.ofString place).anchor ≠ .relative)
    (hbelow : (Path.ofString place).components <+: (Path.ofString below).components) :
    (t.inheritable place name).Sublist (t.seen below name) := by
  refine List.Sublist.flatMap_right _ fun n _ => List.Sublist.flatMap ?_ _
  refine List.monotone_filter_right _ fun d hd => ?_
  obtain ⟨hrecursive, hreaches, hname⟩ := of_decide_eq_true hd
  exact decide_eq_true ⟨hreaches.below hrecursive hplace hbelow, hname⟩

theorem evaluate_of_canonical (hplace : h.canonical directory = .ok place) :
    t.evaluate h directory = .ok (t.valuesAt place) := by
  rw [evaluate, hplace]
  rfl

theorem get_valuesAt (hplace : (Path.ofString place).anchor ≠ .relative) :
    (t.valuesAt place).get name = t.seen place name := by
  have hinitial : DefineValues.initial.get name = [] := by
    unfold DefineValues.get DefineValues.initial
    simp only [Entries.lookup_cons, List.lookup_nil]
    split_ifs <;> rfl
  have hvalues : t.valuesAt place = DefineValues.initial.appendAll (t.applicable place) := rfl
  rw [hvalues, DefineValues.get_appendAll, hinitial, added_applicable hplace, List.nil_append]

theorem mem_keys_valuesAt (hplace : (Path.ofString place).anchor ≠ .relative) :
    name ∈ (t.valuesAt place).map (·.1) ↔ IsPathVariable name ∨
      ∃ n ∈ t.nodes, ∃ d ∈ n.defines, n.Reaches d place ∧ d.variableName = name := by
  have hvalues : t.valuesAt place = DefineValues.initial.appendAll (t.applicable place) := rfl
  have hinitial : name ∈ DefineValues.initial.map (·.1) ↔ IsPathVariable name := by
    simp [DefineValues.initial, IsPathVariable]
  rw [hvalues, DefineValues.mem_keys_appendAll, hinitial]
  refine or_congr_right ?_
  constructor
  · rintro ⟨d, hd, hname⟩
    obtain ⟨n, hn, hfilter⟩ := List.mem_flatMap.1 hd
    obtain ⟨hd, happlies⟩ := List.mem_filter.1 hfilter
    exact ⟨n, hn, d, hd, (DefineNode.appliesTo_iff hplace).1 happlies, hname⟩
  · rintro ⟨n, hn, d, hd, hreaches, hname⟩
    have hfilter := List.mem_filter.2 ⟨hd, (DefineNode.appliesTo_iff hplace).2 hreaches⟩
    exact ⟨d, List.mem_flatMap.2 ⟨n, hn, hfilter⟩, hname⟩

theorem nodup_keys_valuesAt : ((t.valuesAt place).map (·.1)).Nodup := by
  have hinitial : (DefineValues.initial.map (·.1)).Nodup := by decide
  exact DefineValues.nodup_appendAll hinitial

/-- A directory that has a canonical spelling sees for each variable the paths of the defines that
reach that spelling component by component, in the order of the nodes and of the defines in a node.
So it sees all that is recursive in a directory above it, and the values of two lists of nodes in a
row are those of the first list followed by those of the second. -/
theorem evaluate_by_components (t : DefineTree) (h : Host) (directory : String) :
    (∀ place, h.canonical directory = .ok place → ∀ n ∈ t.nodes, ∀ d ∈ n.defines,
      (n.appliesTo place d = true ↔ n.Reaches d place)) ∧
    (∀ e, h.canonical directory = .error e → t.evaluate h directory = .error e) ∧
    (∀ place, h.canonical directory = .ok place → ∃ values,
      t.evaluate h directory = .ok values ∧ (values.map (·.1)).Nodup ∧
        (∀ name, values.get name = t.seen place name) ∧
        ∀ name, name ∈ values.map (·.1) ↔ IsPathVariable name ∨
          ∃ n ∈ t.nodes, ∃ d ∈ n.defines, n.Reaches d place ∧ d.variableName = name) ∧
    (∀ above, h.canonical above = .ok above → h.canonical directory = .ok directory →
      (Path.ofString above).components <+: (Path.ofString directory).components →
      ∃ values, t.evaluate h directory = .ok values ∧
        ∀ name, (t.inheritable above name).Sublist (values.get name)) ∧
    ∀ xs ys, t.nodes = xs ++ ys → ∀ place, h.canonical directory = .ok place →
      ∃ values left right, t.evaluate h directory = .ok values ∧
        (⟨xs⟩ : DefineTree).evaluate h directory = .ok left ∧
        (⟨ys⟩ : DefineTree).evaluate h directory = .ok right ∧
        (∀ name, values.get name = left.get name ++ right.get name) ∧
        ∀ name, name ∈ values.map (·.1) ↔ name ∈ left.map (·.1) ∨ name ∈ right.map (·.1) := by
  refine ⟨fun place hplace n _ d _ => ?_, fun e he => ?_, fun place hplace => ?_,
    fun above habove hdirectory hprefix => ?_, fun xs ys hnodes place hplace => ?_⟩
  · exact DefineNode.appliesTo_iff (Host.absolute_of_canonical hplace)
  · rw [evaluate, he]
    rfl
  · have habsolute := Host.absolute_of_canonical hplace
    exact ⟨_, evaluate_of_canonical hplace, nodup_keys_valuesAt,
      fun name => get_valuesAt habsolute, fun name => mem_keys_valuesAt habsolute⟩
  · refine ⟨_, evaluate_of_canonical hdirectory, fun name => ?_⟩
    rw [get_valuesAt (Host.absolute_of_canonical hdirectory)]
    exact inheritable_sublist (Host.absolute_of_canonical habove) hprefix
  · obtain rfl : t = ⟨xs ++ ys⟩ := congrArg DefineTree.mk hnodes
    have habsolute := Host.absolute_of_canonical hplace
    refine ⟨_, _, _, evaluate_of_canonical hplace, evaluate_of_canonical hplace,
      evaluate_of_canonical hplace, fun name => ?_, fun name => ?_⟩
    · rw [get_valuesAt habsolute, get_valuesAt habsolute, get_valuesAt habsolute, seen_append]
    · rw [mem_keys_valuesAt habsolute, mem_keys_valuesAt habsolute, mem_keys_valuesAt habsolute]
      simp only [List.mem_append, or_and_right, exists_or]
      exact or_or_distrib_left

/-- A machine with a directory below another. -/
def nestedHost : Host where
  tree := ⟨[(["ws"], .directory), (["ws", "a"], .directory), (["ws", "ab"], .directory)]⟩
  cwd := []
  environment := []
  homes := []

/-- A recursive define of a variable that is no path variable, a plain define of the directory
itself, and a define of a directory whose name only begins in the same way. -/
def nestedTree : DefineTree where
  nodes := [⟨"outer", "//ws/.//", [⟨"FPDocPath", ["doc"], true, ""⟩]⟩,
    ⟨"above", "/ws//", [⟨"FPDocPath", ["all"], true, ""⟩]⟩,
    ⟨"beside", "/ws/a", [⟨unitVariable, ["a"], true, ""⟩]⟩,
    ⟨"here", "/ws/./ab", [⟨"FPDocPath", ["own"], false, ""⟩, ⟨unitVariable, ["ab"], false, ""⟩]⟩]

theorem clean_nested : FileTree.Clean nestedHost.tree ["ws"] ∧
    FileTree.Clean nestedHost.tree ["ws", "ab"] := by
  have houter : FileTree.Clean nestedHost.tree ["ws"] := .child .root (by decide) nofun
  exact ⟨houter, houter.child (by decide) nofun⟩

theorem canonical_nested_dotted : nestedHost.canonical "/ws/a/../ab" = .ok "/ws/ab" := by
  have hdown : FileTree.GoesDown "ws" ∧ FileTree.GoesDown "a" ∧ FileTree.GoesDown "ab" := by
    refine ⟨⟨?_, ?_, ?_⟩, ⟨?_, ?_, ?_⟩, ⟨?_, ?_, ?_⟩⟩ <;> decide
  have hleads : FileTree.Leads nestedHost.tree 0 [] ["ws", "a", "..", "ab"] ["ws", "ab"] :=
    .down hdown.1 nofun (.down hdown.2.1 nofun (.up (.down hdown.2.2 nofun .done)))
  have habsolute : (Path.ofString "/ws/a/../ab").anchor ≠ .relative := by decide
  exact Host.canonical_of_resolve (fun htilde => habsolute htilde.1)
    (Host.resolve_of_leads (by decide) clean_nested.2 hleads)

/-- The directory gets what is defined above it before what is its own. -/
theorem evaluate_by_components_nested :
    nestedHost.canonical "/ws/a/../ab" = .ok "/ws/ab" ∧
      nestedHost.canonical "/ws/ab" = .ok "/ws/ab" ∧ nestedHost.canonical "/ws" = .ok "/ws" ∧
      ∃ values, nestedTree.evaluate nestedHost "/ws/a/../ab" = .ok values ∧
        values.get "FPDocPath" = ["all", "own"] ∧ values.get unitVariable = ["ab"] ∧
        (nestedTree.inheritable "/ws" "FPDocPath").Sublist (values.get "FPDocPath") := by
  have hdotted : nestedHost.canonical "/ws/a/../ab" = .ok "/ws/ab" := canonical_nested_dotted
  have hbelow : nestedHost.canonical "/ws/ab" = .ok "/ws/ab" :=
    Host.canonical_pathOf clean_nested.2
  have habove : nestedHost.canonical "/ws" = .ok "/ws" := Host.canonical_pathOf clean_nested.1
  have hdoc : nestedTree.seen "/ws/ab" "FPDocPath" = ["all", "own"] := by decide +kernel
  have hunit : nestedTree.seen "/ws/ab" unitVariable = ["ab"] := by decide +kernel
  have hprefix : (Path.ofString "/ws").components <+: (Path.ofString "/ws/ab").components := by
    decide +kernel
  obtain ⟨-, -, hvalues, -, -⟩ := evaluate_by_components nestedTree nestedHost "/ws/a/../ab"
  obtain ⟨values, hok, -, hseen, -⟩ := hvalues "/ws/ab" hdotted
  obtain ⟨-, -, -, hinherited, -⟩ := evaluate_by_components nestedTree nestedHost "/ws/ab"
  obtain ⟨values', hok', hsublist⟩ := hinherited "/ws" habove hbelow hprefix
  have hsame : values' = values := by
    rw [evaluate_of_canonical hbelow, ← evaluate_of_canonical hdotted, hok] at hok'
    exact (Except.ok.inj hok').symm
  exact ⟨hdotted, hbelow, habove, values, hok, (hseen _).trans hdoc, (hseen _).trans hunit,
    hsame ▸ hsublist "FPDocPath"⟩

/-- The directory of a node may be written without any component. Its components are then the first
of every directory, and still its recursive define applies to none. -/
theorem not_appliesTo_of_no_component :
    let d : Define := ⟨unitVariable, ["x"], true, ""⟩
    let n : DefineNode := ⟨"n", "", [d]⟩
    nestedHost.canonical "/ws" = .ok "/ws" ∧
      (Path.ofString n.directory).components <+: (Path.ofString "/ws").components ∧
      d.recursive = true ∧ n.appliesTo "/ws" d = false ∧
      ∃ values, (⟨[n]⟩ : DefineTree).evaluate nestedHost "/ws" = .ok values ∧
        values.get unitVariable = [] := by
  have hplace : nestedHost.canonical "/ws" = .ok "/ws" := Host.canonical_pathOf clean_nested.1
  have hprefix : (Path.ofString "").components <+: (Path.ofString "/ws").components := by
    decide +kernel
  refine ⟨hplace, hprefix, rfl, by decide +kernel, _, evaluate_of_canonical hplace, ?_⟩
  decide +kernel

end DefineTree

end PascalWorkspace
