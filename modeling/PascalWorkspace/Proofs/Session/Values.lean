import PascalWorkspace.Proofs.Session.Nodes
import PascalWorkspace.Proofs.Walk.Directories
import PascalWorkspace.Proofs.Walk.Visits

/-! What a directory finally sees after a scan: the search paths of the packages at or above it, in
the order in which they were published, and the directory itself if a walk has come to it. -/
namespace PascalWorkspace

/-- The paths that belong to the packages at or above a directory. -/
def pathsAbove (d : Path) (packages : List Package) (paths : Package → List String) : List String :=
  (packages.filter fun p => (Path.ofString p.directory).Above d).flatMap paths

theorem pathsAbove_append {d : Path} {early late : List Package} {paths : Package → List String} :
    pathsAbove d (early ++ late) paths = pathsAbove d early paths ++ pathsAbove d late paths := by
  rw [pathsAbove, List.filter_append, List.flatMap_append]
  rfl

section Seen

open FileTree Host

variable {h : Host} {root d : Location} {directory name : String} {extra : List String}
  {visit : Visit} {nodes front behind : List DefineNode} {packages early late : List Package}
  {t : DefineTree}

/-- The plain directories among some nodes are all different from a place. -/
def Elsewhere (d : Location) (nodes : List DefineNode) : Prop :=
  ∀ n ∈ nodes, n.name = "Directory" →
    ∃ directory, n = directoryNode directory ∧ Path.ofString directory ≠ pathOf d

/-- Where plain directories do not count, a variable has the paths of the packages. -/
theorem flatMap_pathsAt_eq (hname : IsPathVariable name) (hd : Clean h.tree d)
    (hpackages : nodes.filter (fun n => n.name ≠ "Directory") = packages.map Package.node)
    (helsewhere : Elsewhere d nodes) :
    nodes.flatMap (·.pathsAt (pathOf d).toString name) =
      pathsAbove (pathOf d) packages (·.mergedPaths.of name) := by
  have hnothing : ∀ n ∈ nodes, n.name = "Directory" →
      n.pathsAt (pathOf d).toString name = [] := by
    intro n hn hdirectory
    obtain ⟨directory, rfl, hne⟩ := helsewhere n hn hdirectory
    rw [← ofString_pathOf hd] at hne
    exact pathsAt_directoryNode_of_ne hne.symm
  rw [flatMap_pathsAt_filter hnothing, hpackages, flatMap_pathsAt_node packages hname,
    ofString_pathOf hd]
  rfl

theorem evaluate_of_clean (hd : Clean h.tree d)
    (hpackages : t.packageNodes = packages.map Package.node)
    (hdirectories : ∀ n ∈ t.nodes, n.name = "Directory" → ∃ place, n = directoryNode place) :
    t.evaluate h (pathOf d).toString =
      .ok (pathValues fun name => t.nodes.flatMap (·.pathsAt (pathOf d).toString name)) := by
  have hvariables : ∀ n ∈ t.nodes, ∀ e ∈ n.defines, IsPathVariable e.variableName := by
    intro n hn e he
    by_cases hname : n.name = "Directory"
    · obtain ⟨place, rfl⟩ := hdirectories n hn hname
      exact isPathVariable_of_directoryNode he
    · have hmem : n ∈ t.packageNodes := List.mem_filter.2 ⟨hn, decide_eq_true hname⟩
      rw [hpackages] at hmem
      obtain ⟨p, -, rfl⟩ := List.mem_map.1 hmem
      exact isPathVariable_of_node he
  rw [DefineTree.evaluate, canonical_pathOf hd, ← valuesAt_eq hvariables]
  rfl

/-- A place without a node of its own sees the packages at or above it. -/
theorem evaluate_of_elsewhere (hd : Clean h.tree d)
    (hpackages : t.packageNodes = packages.map Package.node) (helsewhere : Elsewhere d t.nodes) :
    t.evaluate h (pathOf d).toString = .ok [
      (unitVariable, pathsAbove (pathOf d) packages (·.mergedPaths.units)),
      (includeVariable, pathsAbove (pathOf d) packages (·.mergedPaths.includes)),
      (sourceVariable, pathsAbove (pathOf d) packages (·.mergedPaths.sources))] := by
  have hdirectories : ∀ n ∈ t.nodes, n.name = "Directory" → ∃ place, n = directoryNode place := by
    intro n hn hname
    obtain ⟨place, hnode, -⟩ := helsewhere n hn hname
    exact ⟨place, hnode⟩
  rw [evaluate_of_clean hd hpackages hdirectories, pathValues_congr fun name hname =>
    flatMap_pathsAt_eq hname hd hpackages helsewhere]
  rfl

/-- A place sees itself behind the packages whose nodes stand before its own. -/
theorem evaluate_of_directoryNode (hd : Clean h.tree d)
    (hnodes : t.nodes = front ++ directoryNode (pathOf d).toString :: behind)
    (hfront : front.filter (fun n => n.name ≠ "Directory") = early.map Package.node)
    (hbehind : behind.filter (fun n => n.name ≠ "Directory") = late.map Package.node)
    (helsewhere : Elsewhere d (front ++ behind)) :
    t.evaluate h (pathOf d).toString = .ok [
      (unitVariable, pathsAbove (pathOf d) early (·.mergedPaths.units) ++
        (pathOf d).toString :: pathsAbove (pathOf d) late (·.mergedPaths.units)),
      (includeVariable, pathsAbove (pathOf d) early (·.mergedPaths.includes) ++
        (pathOf d).toString :: pathsAbove (pathOf d) late (·.mergedPaths.includes)),
      (sourceVariable, pathsAbove (pathOf d) (early ++ late) (·.mergedPaths.sources))] := by
  have hpackages : t.packageNodes = (early ++ late).map Package.node := by
    rw [DefineTree.packageNodes, hnodes, List.filter_append, hfront, List.map_append, ← hbehind]
    rfl
  have hdirectories : ∀ n ∈ t.nodes, n.name = "Directory" → ∃ place, n = directoryNode place := by
    intro n hn hname
    rw [hnodes, List.mem_append, List.mem_cons] at hn
    obtain hn | rfl | hn := hn
    · obtain ⟨place, hnode, -⟩ := helsewhere n (List.mem_append_left _ hn) hname
      exact ⟨place, hnode⟩
    · exact ⟨_, rfl⟩
    · obtain ⟨place, hnode, -⟩ := helsewhere n (List.mem_append_right _ hn) hname
      exact ⟨place, hnode⟩
  have hvalue (name : String) (hname : IsPathVariable name) :
      t.nodes.flatMap (·.pathsAt (pathOf d).toString name) =
        pathsAbove (pathOf d) early (·.mergedPaths.of name) ++
          ((if name = sourceVariable then [] else [(pathOf d).toString]) ++
            pathsAbove (pathOf d) late (·.mergedPaths.of name)) := by
    rw [hnodes, List.flatMap_append, List.flatMap_cons, pathsAt_directoryNode_self hname,
      flatMap_pathsAt_eq hname hd hfront fun n hn => helsewhere n (List.mem_append_left _ hn),
      flatMap_pathsAt_eq hname hd hbehind fun n hn => helsewhere n (List.mem_append_right _ hn)]
  rw [evaluate_of_clean hd hpackages hdirectories, pathValues_congr hvalue, pathsAbove_append]
  rfl

/-- The directories that a walk comes to are clean, and it knows them by their own paths. -/
theorem ofString_of_canonical (ht : h.tree.WellFormed) (hroot : Clean h.tree root)
    (hvisit : visit ∈ Visit.all h extra (pathOf root))
    (hcanonical : h.canonical visit.directory.toString = .ok directory) :
    directory = visit.directory.toString ∧ Path.ofString directory = visit.directory := by
  obtain ⟨place, hplace, -, hclean⟩ := Visit.clean_of_mem_below ht hroot hvisit
  rw [hplace, canonical_pathOf hclean] at hcanonical
  obtain rfl := Except.ok.inj hcanonical
  rw [hplace]
  exact ⟨rfl, ofString_pathOf hclean⟩

/-- The nodes of some visits are elsewhere for a place that none of them comes to. -/
theorem elsewhere_of_visits {visits : List Visit} (ht : h.tree.WellFormed)
    (hroot : Clean h.tree root) (hvisits : visits ⊆ Visit.all h extra (pathOf root))
    (hne : ∀ visit ∈ visits, visit.directory ≠ pathOf d)
    (hnodes : ∀ n ∈ nodes, n.name = "Directory" → ∃ visit ∈ visits, ∃ directory,
      h.canonical visit.directory.toString = .ok directory ∧ n = directoryNode directory) :
    Elsewhere d nodes := by
  intro n hn hname
  obtain ⟨visit, hvisit, directory, hcanonical, hnode⟩ := hnodes n hn hname
  obtain ⟨-, hplace⟩ := ofString_of_canonical ht hroot (hvisits hvisit) hcanonical
  exact ⟨directory, hnode, hplace ▸ hne visit hvisit⟩

/-- The nodes of all other visits are elsewhere for the place that one visit comes to. -/
theorem elsewhere_of_split {passed rest : List Visit} (ht : h.tree.WellFormed)
    (hroot : Clean h.tree root)
    (hsplit : Visit.all h extra (pathOf root) = passed ++ visit :: rest)
    (hplace : visit.directory = pathOf d)
    (hnodes : ∀ n ∈ nodes, n.name = "Directory" → ∃ other ∈ passed ++ rest, ∃ directory,
      h.canonical other.directory.toString = .ok directory ∧ n = directoryNode directory) :
    Elsewhere d nodes := by
  have hothers : passed ++ rest ⊆ Visit.all h extra (pathOf root) := by
    rw [hsplit]
    exact ((List.sublist_cons_self visit rest).append_left passed).subset
  have hne : ∀ other ∈ passed ++ rest, other.directory ≠ pathOf d := by
    rw [← hplace]
    exact fun other => Visit.directory_ne_of_split ht hroot hsplit
  exact elsewhere_of_visits ht hroot hothers hne hnodes

end Seen

/-- Where the node of a directory cuts the nodes, those in front are of the packages that were
published by then, and those behind are of the others. -/
theorem Workspace.Mirror.nodes_of_cut {u x : Workspace} {keys more : List String}
    {behind : List DefineNode} {directory : String} (hu : Mirror [] keys u)
    (hx : Mirror [] (keys ++ more) x)
    (hshown : ∀ key ∈ keys, x.registry.shown? key = u.registry.shown? key)
    (hcut : x.defines.nodes = u.defines.nodes ++ directoryNode directory :: behind) :
    u.defines.nodes.filter (fun n => n.name ≠ "Directory") =
        (keys.filterMap x.registry.find?).map Package.node ∧
      behind.filter (fun n => n.name ≠ "Directory") =
        (more.filterMap x.registry.find?).map Package.node := by
  have hfront : u.defines.packageNodes = (keys.filterMap x.registry.find?).map Package.node := by
    rw [hu.nodes, List.nil_append, List.map_filterMap]
    exact List.filterMap_congr fun key hkey => (Registry.nodeOf?_of_shown (hshown key hkey)).symm
  have hboth : u.defines.packageNodes ++ behind.filter (fun n => n.name ≠ "Directory") =
      (keys.filterMap x.registry.find?).map Package.node ++
        (more.filterMap x.registry.find?).map Package.node := by
    rw [← List.map_append, ← List.filterMap_append, ← hx.packageNodes_eq, DefineTree.packageNodes,
      DefineTree.packageNodes, hcut, List.filter_append]
    rfl
  rw [hfront] at hboth
  exact ⟨hfront, List.append_cancel_left hboth⟩

theorem Workspace.Mirror.mem_filterMap_iff {u x : Workspace} {keys : List String} {p : Package}
    (hu : Mirror [] keys u) (hx : x.registry.Distinct) (hp : p ∈ x.registry.packages) :
    p ∈ keys.filterMap x.registry.find? ↔ u.registry.isPublishedAt p.manifest = true := by
  rw [hu.published, List.mem_filterMap]
  constructor
  · rintro ⟨key, hkey, hfind⟩
    rwa [Registry.find?_manifest hfind]
  · exact fun hkey => ⟨p.manifest, hkey, Registry.find?_of_mem hx hp⟩

namespace Session

open Operation Registry FileTree Host

variable {h : Host} {source : ManifestSource}

/-- The workspace of a scan once its last walk has gone through some directories. -/
def afterVisits (h : Host) (source : ManifestSource) (root : Path) (s : Session)
    (passed : List Visit) : Workspace :=
  let ignored := s.settings.ignoredNames
  let resolved := after (Workspace.resolveBelow h source ignored root) s.workspace
  let repaired := after (Workspace.repairBelow h source ignored root) resolved
  after (passed.forM (Workspace.publishVisit h source)) repaired

theorem afterVisits_eq {root : Path} {s : Session} {passed : List Visit} {v w : Workspace}
    {found repaired : Except Failure Nat}
    (hresolve : outcome (Workspace.resolveBelow h source s.settings.ignoredNames root) s.workspace =
      (found, v))
    (hrepair : outcome (Workspace.repairBelow h source s.settings.ignoredNames root) v =
      (repaired, w)) :
    afterVisits h source root s passed =
      after (passed.forM (Workspace.publishVisit h source)) w := by
  simp only [afterVisits, after, hresolve, hrepair]

/-- Before its last walk a first scan has added no nodes, and none are missing. -/
theorem exists_mirror {s : Session} {root : Path} {found repaired : Nat} {v w : Workspace}
    (hregistry : s.workspace.registry = {}) (hdefines : s.workspace.defines = {})
    (hresolve : outcome (Workspace.resolveBelow h source s.settings.ignoredNames root) s.workspace =
      (.ok found, v))
    (hrepair : outcome (Workspace.repairBelow h source s.settings.ignoredNames root) v =
      (.ok repaired, w)) :
    w.defines = {} ∧ ∃ keys, Workspace.Mirror [] keys w := by
  have hbegin : Workspace.Mirror [] [] s.workspace := by
    have hmirror := Workspace.mirror_empty hregistry
    rwa [hdefines] at hmirror
  obtain ⟨first, hv, -⟩ := Workspace.extends_resolveBelow.of_outcome hresolve _ _ hbegin
  obtain ⟨second, hw, -⟩ := Workspace.extends_repairBelow.of_outcome hrepair _ _ hv
  refine ⟨?_, _, hw⟩
  rw [(Workspace.quiet_repairBelow.of_outcome hrepair).defines,
    (Workspace.quiet_resolveBelow.of_outcome hresolve).defines, hdefines]

section LastWalk

variable {root d : Location} {extra : List String} {w x : Workspace} (ht : h.tree.WellFormed)
  (hroot : Clean h.tree root) (hempty : w.defines = {})
  (hok : outcome ((Visit.all h extra (pathOf root)).forM (Workspace.publishVisit h source)) w =
    (.ok (), x))
include ht hroot hempty hok

/-- A directory that the last walk comes to sees itself behind the packages published by then. -/
theorem evaluate_of_visited {u : Workspace} {keys later : List String} {passed rest : List Visit}
    {visit : Visit} (hsplit : Visit.all h extra (pathOf root) = passed ++ visit :: rest)
    (hpassed : outcome (passed.forM (Workspace.publishVisit h source)) w = (.ok (), u))
    (hu : Workspace.Mirror [] keys u) (hx : Workspace.Mirror [] (keys ++ later) x)
    (hshown : ∀ key ∈ keys, x.registry.shown? key = u.registry.shown? key) :
    let early := keys.filterMap x.registry.find?
    let late := later.filterMap x.registry.find?
    x.defines.evaluate h visit.directory.toString = .ok [
      (unitVariable, pathsAbove visit.directory early (·.mergedPaths.units) ++
        visit.directory.toString :: pathsAbove visit.directory late (·.mergedPaths.units)),
      (includeVariable, pathsAbove visit.directory early (·.mergedPaths.includes) ++
        visit.directory.toString :: pathsAbove visit.directory late (·.mergedPaths.includes)),
      (sourceVariable, pathsAbove visit.directory (early ++ late) (·.mergedPaths.sources))] := by
  have hmem : visit ∈ Visit.all h extra (pathOf root) :=
    hsplit ▸ List.mem_append_right _ List.mem_cons_self
  rw [hsplit] at hok
  obtain ⟨v, directory, behind, hrun, hcanonical, hcut, hothers⟩ :=
    Workspace.nodes_of_cut hempty hok
  obtain rfl : u = v := (Prod.mk.inj (hpassed.symm.trans hrun)).2
  obtain ⟨rfl, -⟩ := ofString_of_canonical ht hroot hmem hcanonical
  obtain ⟨hfront, hbehind⟩ := hu.nodes_of_cut hx hshown hcut
  obtain ⟨place, hplace, -, hclean⟩ := Visit.clean_of_mem_below ht hroot hmem
  have helsewhere := elsewhere_of_split ht hroot hsplit hplace hothers
  rw [hplace] at hcut ⊢
  exact evaluate_of_directoryNode hclean hcut hfront hbehind helsewhere

/-- A place that the last walk does not come to sees packages only. -/
theorem evaluate_of_unvisited {packages : List Package} (hd : Clean h.tree d)
    (hpackages : x.defines.packageNodes = packages.map Package.node)
    (hnot : ∀ visit ∈ Visit.all h extra (pathOf root), visit.directory ≠ pathOf d) :
    x.defines.evaluate h (pathOf d).toString = .ok [
      (unitVariable, pathsAbove (pathOf d) packages (·.mergedPaths.units)),
      (includeVariable, pathsAbove (pathOf d) packages (·.mergedPaths.includes)),
      (sourceVariable, pathsAbove (pathOf d) packages (·.mergedPaths.sources))] := by
  obtain ⟨all, hall, hdirectories⟩ := Workspace.nodes_of_publishVisits hok
  rw [hempty, List.nil_append] at hall
  rw [← hall] at hdirectories
  exact evaluate_of_elsewhere hd hpackages
    (elsewhere_of_visits ht hroot (List.Subset.refl _) hnot hdirectories)

end LastWalk

/-- What is finally seen after a first scan that ends well, below a root that is reached without
links. In the order in which they were published, the packages give each place the paths of exactly
those at or above it, each once. A directory that the walk came to sees itself as well, as a unit
and include path, behind the packages that had been published when the walk came to it. No other
directory is seen from anywhere. -/
theorem values_of_scan (h : Host) (ht : h.tree.WellFormed) (source : ManifestSource)
    (root : Location) (hroot : Clean h.tree root) (s t : Session)
    (hregistry : s.workspace.registry = {}) (hdefines : s.workspace.defines = {})
    (hok : outcome (scan h source (pathOf root)) s = (.ok (), t)) :
    let visits := Visit.all h s.settings.ignoredNames (pathOf root)
    ∃ order : List Package, order.Perm t.workspace.registry.packages ∧
      t.workspace.defines.packageNodes = order.map Package.node ∧
      (∀ passed visit rest, visits = passed ++ visit :: rest →
        ∃ early late, order = early ++ late ∧
          (∀ p ∈ order, p ∈ early ↔ (afterVisits h source (pathOf root) s passed
            ).registry.isPublishedAt p.manifest = true) ∧
          t.workspace.defines.evaluate h visit.directory.toString = .ok [
            (unitVariable, pathsAbove visit.directory early (·.mergedPaths.units) ++
              visit.directory.toString :: pathsAbove visit.directory late (·.mergedPaths.units)),
            (includeVariable, pathsAbove visit.directory early (·.mergedPaths.includes) ++
              visit.directory.toString :: pathsAbove visit.directory late (·.mergedPaths.includes)),
            (sourceVariable, pathsAbove visit.directory order (·.mergedPaths.sources))]) ∧
      ∀ d, Clean h.tree d → (∀ visit ∈ visits, visit.directory ≠ pathOf d) →
        t.workspace.defines.evaluate h (pathOf d).toString = .ok [
          (unitVariable, pathsAbove (pathOf d) order (·.mergedPaths.units)),
          (includeVariable, pathsAbove (pathOf d) order (·.mergedPaths.includes)),
          (sourceVariable, pathsAbove (pathOf d) order (·.mergedPaths.sources))] := by
  intro visits
  obtain ⟨found, repaired, v, w, x, hresolve, hrepair, hpublish, hsame, hnodes⟩ := walks_of_scan hok
  obtain ⟨hempty, keys, hw⟩ := exists_mirror hregistry hdefines hresolve hrepair
  obtain ⟨more, hx, -, hcuts⟩ := Workspace.mirror_of_publishVisits hw hpublish
  obtain ⟨r, hscan⟩ := exists_scanned hregistry hok
  have hdistinct := hscan.same.distinct hscan.explored.sound.distinct
  have hfinished := finished_of_scan h source (pathOf root) s t hregistry hok
  rw [hsame] at hdistinct hfinished ⊢
  rw [hnodes]
  let order := (keys ++ more).filterMap x.registry.find?
  have hmember {p : Package} :
      p ∈ order ↔ p ∈ x.registry.packages ∧ p.isPublished = true := hx.mem_order hdistinct
  refine ⟨order, ?_, hx.packageNodes_eq, ?_, ?_⟩
  · refine (List.perm_ext_iff_of_nodup hx.nodup_order.of_map hdistinct.of_map).2 fun p => ?_
    rw [hmember]
    exact ⟨fun hp => hp.1, fun hp => ⟨hp, (hfinished p hp).2.2⟩⟩
  · intro passed visit rest hsplit
    have hrun : outcome ((passed ++ visit :: rest).forM (Workspace.publishVisit h source)) w =
        (.ok (), x) := hsplit ▸ hpublish
    obtain ⟨u, hpassed, -⟩ := outcome_forM_append hrun
    obtain ⟨early, late, hmore, hu, hshown⟩ := hcuts passed (visit :: rest) u hsplit hpassed
    have hkeys : keys ++ more = keys ++ early ++ late := by rw [hmore, List.append_assoc]
    have horder : order =
        (keys ++ early).filterMap x.registry.find? ++ late.filterMap x.registry.find? := by
      rw [← List.filterMap_append, ← hkeys]
    have hstate : afterVisits h source (pathOf root) s passed = u := by
      rw [afterVisits_eq hresolve hrepair, after, hpassed]
    refine ⟨_, _, horder, fun p hp => ?_, ?_⟩
    · rw [hstate, hu.mem_filterMap_iff hdistinct (hmember.1 hp).1]
    · rw [horder]
      exact evaluate_of_visited ht hroot hempty hpublish hsplit hpassed hu (hkeys ▸ hx) hshown
  · intro d hd hnot
    exact evaluate_of_unvisited ht hroot hempty hpublish hd hx.packageNodes_eq hnot

theorem wellFormed_loop : loopHost.tree.WellFormed := by decide

theorem clean_loop : Clean loopHost.tree ["w"] := by
  have hname : IsFileName "w" := by decide
  have hentry (target : String) : loopHost.tree.entryAt ([] ++ ["w"]) ≠ some (.link target) := by
    have hdirectory : loopHost.tree.entryAt ([] ++ ["w"]) = some .directory := by decide
    rw [hdirectory]
    exact fun h => nomatch h
  exact .child .root hname hentry

/-- Before the last walk begins nothing has been published. -/
theorem afterVisits_loop :
    (afterVisits loopHost loopSource loopRoot {} []).registry = resolvedLoop := by
  obtain ⟨defines, log, hresolve⟩ := outcome_of_reached resolve_loop
  obtain ⟨defines', log', hrepair⟩ := outcome_of_reached (repair_loop defines log)
  have hstate : afterVisits loopHost loopSource loopRoot {} [] =
      ⟨resolvedLoop, defines', log'⟩ := afterVisits_eq hresolve hrepair
  rw [hstate]

/-- The walk comes to its one directory before any package is published, and all three packages lie
at or above that directory. -/
theorem values_of_scan_loop :
    ∃ t, outcome (scan loopHost loopSource loopRoot) {} = (.ok (), t) ∧
      loopHost.tree.WellFormed ∧ Clean loopHost.tree ["w"] ∧
      ({} : Session).workspace.registry = {} ∧ ({} : Session).workspace.defines = {} ∧
      ∃ order : List Package, order.Perm loop.packages ∧
        t.workspace.defines.evaluate loopHost loopRoot.toString = .ok [
          (unitVariable, loopRoot.toString :: order.flatMap (·.mergedPaths.units)),
          (includeVariable, loopRoot.toString :: order.flatMap (·.mergedPaths.includes)),
          (sourceVariable, order.flatMap (·.mergedPaths.sources))] := by
  obtain ⟨t, hok, hloop⟩ := scan_loop
  obtain ⟨order, hperm, -, hvisited, -⟩ := values_of_scan loopHost wellFormed_loop loopSource ["w"]
    clean_loop {} t rfl rfl hok
  obtain ⟨early, late, rfl, hearly, hvalues⟩ := hvisited [] _ [] visits_loop
  rw [hloop] at hperm
  have hnone : early = [] := by
    refine List.eq_nil_iff_forall_not_mem.2 fun p hp => ?_
    have hmem := List.mem_append_left late hp
    have hpublished := (hearly p hmem).1 hp
    rw [show pathOf ["w"] = loopRoot from rfl, afterVisits_loop] at hpublished
    have hunpublished : ∀ q ∈ loop.packages,
        resolvedLoop.isPublishedAt q.manifest = false := by decide
    rw [hunpublished p (hperm.mem_iff.1 hmem)] at hpublished
    cases hpublished
  have habove : ∀ p ∈ late, decide ((Path.ofString p.directory).Above loopRoot) = true := by
    intro p hp
    have hcovers : loop.packages.all
        (fun p => (Path.ofString p.directory).covers loopRoot) = true := by cbv
    rw [decide_eq_true_eq, ← Path.covers_iff_above]
    exact List.all_eq_true.1 hcovers p (hperm.mem_iff.1 (List.mem_append_right _ hp))
  refine ⟨t, hok, wellFormed_loop, clean_loop, rfl, rfl, _, hperm, ?_⟩
  rw [hvalues, hnone]
  simp only [pathsAbove, List.filter_eq_self.2 habove, List.nil_append, List.filter_nil,
    List.flatMap_nil]

end Session

end PascalWorkspace
