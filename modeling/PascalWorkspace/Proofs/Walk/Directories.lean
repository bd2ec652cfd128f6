import PascalWorkspace.Proofs.Define.Values
import PascalWorkspace.Proofs.Walk.Nodes

/-! The order of the nodes that the last walk of a scan adds: each directory comes before the
packages that are first published there, and behind all that have been published before. -/
namespace PascalWorkspace

/-- Nodes that do not count for a directory can be left out. -/
theorem flatMap_pathsAt_filter {nodes : List DefineNode} {place name : String}
    (h : ∀ n ∈ nodes, n.name = "Directory" → n.pathsAt place name = []) :
    nodes.flatMap (·.pathsAt place name) =
      (nodes.filter fun n => n.name ≠ "Directory").flatMap (·.pathsAt place name) := by
  induction nodes with
  | nil => rfl
  | cons n rest ih =>
    obtain ⟨hn, hrest⟩ := List.forall_mem_cons.1 h
    rw [List.flatMap_cons, ih hrest, List.filter_cons]
    by_cases hname : n.name = "Directory"
    · rw [hn hname]
      simp [hname]
    · simp [hname]

namespace Workspace

open Operation Registry

variable {source : ManifestSource} {h : Host} {visit : Visit} {visits : List Visit}
  {before : List DefineNode} {keys : List String} {u w v : Workspace}

/-- A directory adds its own node and behind it those of the packages that it publishes. -/
theorem nodes_of_publishVisit (hok : outcome (publishVisit h source visit) w = (.ok (), v)) :
    ∃ directory more, h.canonical visit.directory.toString = .ok directory ∧
      v.defines.nodes = w.defines.nodes ++ directoryNode directory :: more ∧
      ∀ n ∈ more, n.name ≠ "Directory" := by
  obtain ⟨_, a, hreport, hnext⟩ := outcome_bind_eq_ok hok
  obtain ⟨directory, b, hcanonical, hnext⟩ := outcome_bind_eq_ok hnext
  obtain ⟨_, c, hnode, hnext⟩ := outcome_bind_eq_ok hnext
  obtain ⟨manifests, d, hlist, hnext⟩ := outcome_bind_eq_ok hnext
  obtain ⟨packages, e, hpackages, hnext⟩ := outcome_bind_eq_ok hnext
  obtain ⟨_, f, hmerge, hpublish⟩ := outcome_bind_eq_ok hnext
  have ha : Quiet source w a := Keeps.of_outcome (keeps_report _ _ _) hreport
  have hb : Quiet source a b := Keeps.of_outcome (keeps_ofPathResult _) hcanonical
  obtain ⟨-, rfl⟩ := Prod.mk.inj hnode
  have hd : Quiet source _ d := Keeps.of_outcome (keeps_listedManifests visit) hlist
  have he : Quiet source d e := Keeps.of_outcome
    (keeps_forManifests (fun _ => keeps_pure _) fun m _ => quiet_tryRegister source m.toString)
    hpackages
  rw [outcome_forM_mergePaths] at hmerge
  obtain ⟨-, rfl⟩ := Prod.mk.inj hmerge
  let s := (packages.map (·.manifest)).foldl Registry.mergePaths e.registry
  obtain ⟨log, hrun⟩ := outcome_forM_publishAndReport packages { e with registry := s }
  rw [hrun] at hpublish
  obtain ⟨-, rfl⟩ := Prod.mk.inj hpublish
  obtain ⟨more, hmore⟩ := exists_publishes (s := s) e.defines (packages.map (·.manifest))
  have hdefines : e.defines.nodes = w.defines.nodes ++ [directoryNode directory] := by
    rw [he.defines, hd.defines]
    exact congrArg (·.nodes ++ [directoryNode directory]) (hb.defines.trans ha.defines)
  refine ⟨directory, more.filterMap s.nodeOf?, ?_, ?_, fun n hn => ?_⟩
  · cases hresult : h.canonical visit.directory.toString with
    | error error =>
      rw [hresult] at hcanonical
      cases hcanonical
    | ok place =>
      rw [hresult] at hcanonical
      exact congrArg Except.ok (Except.ok.inj (Prod.mk.inj hcanonical).1)
  · rw [hmore.nodes, hdefines, List.append_assoc]
    rfl
  · obtain ⟨key, -, hkey⟩ := List.mem_filterMap.1 hn
    obtain ⟨p, -, rfl⟩ := Option.map_eq_some_iff.1 hkey
    exact p.node_name

/-- Every plain directory among the nodes is one that has been visited. -/
theorem nodes_of_publishVisits
    (hok : outcome (visits.forM (publishVisit h source)) w = (.ok (), v)) :
    ∃ more, v.defines.nodes = w.defines.nodes ++ more ∧ ∀ n ∈ more, n.name = "Directory" →
      ∃ visit ∈ visits, ∃ directory, h.canonical visit.directory.toString = .ok directory ∧
        n = directoryNode directory := by
  induction visits generalizing w with
  | nil =>
    obtain ⟨-, rfl⟩ := Prod.mk.inj hok
    exact ⟨[], (List.append_nil _).symm, fun _ hn => (nomatch hn)⟩
  | cons first rest ih =>
    obtain ⟨_, u, hrun, hnext⟩ := outcome_bind_eq_ok hok
    obtain ⟨directory, packages, hdirectory, hfirst, hpackages⟩ := nodes_of_publishVisit hrun
    obtain ⟨more, hrest, hmore⟩ := ih hnext
    refine ⟨directoryNode directory :: packages ++ more, ?_, fun n hn hname => ?_⟩
    · rw [hrest, hfirst, List.append_assoc]
    · obtain hn | hn := List.mem_append.1 hn
      · obtain rfl | hn := List.mem_cons.1 hn
        · exact ⟨first, List.mem_cons_self, directory, hdirectory, rfl⟩
        · exact absurd hname (hpackages n hn)
      · obtain ⟨visit, hvisit, hnode⟩ := hmore n hn hname
        exact ⟨visit, List.mem_cons_of_mem _ hvisit, hnode⟩

/-- The node of a directory stands where its visit cuts the walk. Other plain directories among the
nodes belong to other visits. -/
theorem nodes_of_cut {passed rest : List Visit} (hw : w.defines = {})
    (hok : outcome ((passed ++ visit :: rest).forM (publishVisit h source)) w = (.ok (), v)) :
    ∃ u directory behind, outcome (passed.forM (publishVisit h source)) w = (.ok (), u) ∧
      h.canonical visit.directory.toString = .ok directory ∧
      v.defines.nodes = u.defines.nodes ++ directoryNode directory :: behind ∧
      ∀ n ∈ u.defines.nodes ++ behind, n.name = "Directory" → ∃ other ∈ passed ++ rest, ∃ place,
        h.canonical other.directory.toString = .ok place ∧ n = directoryNode place := by
  obtain ⟨u, hpassed, hnext⟩ := outcome_forM_append hok
  obtain ⟨_, x, hvisit, hrest⟩ := outcome_bind_eq_ok hnext
  obtain ⟨before, hbefore, hfirst⟩ := nodes_of_publishVisits hpassed
  obtain ⟨directory, packages, hdirectory, hown, hpackages⟩ := nodes_of_publishVisit hvisit
  obtain ⟨more, hmore, hlast⟩ := nodes_of_publishVisits hrest
  rw [hw, List.nil_append] at hbefore
  refine ⟨u, directory, packages ++ more, hpassed, hdirectory, ?_, fun n hn hname => ?_⟩
  · rw [hmore, hown, List.append_assoc, List.cons_append]
  · obtain hn | hn := List.mem_append.1 hn
    · obtain ⟨other, hother, hplace⟩ := hfirst n (hbefore ▸ hn) hname
      exact ⟨other, List.mem_append_left _ hother, hplace⟩
    · obtain hn | hn := List.mem_append.1 hn
      · exact absurd hname (hpackages n hn)
      · obtain ⟨other, hother, hplace⟩ := hlast n hn hname
        exact ⟨other, List.mem_append_right _ hother, hplace⟩

/-- Wherever the visits are cut, the packages that have been published by then come first. -/
theorem mirror_of_publishVisits (hw : Mirror before keys w)
    (hok : outcome (visits.forM (publishVisit h source)) w = (.ok (), v)) :
    ∃ more, Mirror before (keys ++ more) v ∧
      (∀ key ∈ keys, v.registry.shown? key = w.registry.shown? key) ∧
      ∀ passed rest u, visits = passed ++ rest →
        outcome (passed.forM (publishVisit h source)) w = (.ok (), u) →
        ∃ early late, more = early ++ late ∧ Mirror before (keys ++ early) u ∧
          ∀ key ∈ keys ++ early, v.registry.shown? key = u.registry.shown? key := by
  induction visits generalizing w keys with
  | nil =>
    obtain ⟨-, rfl⟩ := Prod.mk.inj hok
    refine ⟨[], by rwa [List.append_nil], fun _ _ => rfl, fun passed rest u hsplit hrun => ?_⟩
    obtain ⟨rfl, -⟩ := List.append_eq_nil_iff.1 hsplit.symm
    obtain ⟨-, rfl⟩ := Prod.mk.inj hrun
    exact ⟨[], [], rfl, by rwa [List.append_nil], fun _ _ => rfl⟩
  | cons first others ih =>
    obtain ⟨_, x, hfirst, hnext⟩ := outcome_bind_eq_ok hok
    obtain ⟨fresh, hx, hkept⟩ := extends_publishVisit.of_outcome hfirst before keys hw
    obtain ⟨more, hv, hlater, hcuts⟩ := ih hx hnext
    have hall (key : String) (hkey : key ∈ keys) :
        v.registry.shown? key = w.registry.shown? key := by
      rw [hlater key (List.mem_append_left _ hkey), hkept key hkey]
    refine ⟨fresh ++ more, by rwa [← List.append_assoc], hall, fun passed rest u hsplit hrun => ?_⟩
    cases passed with
    | nil =>
      obtain ⟨-, rfl⟩ := Prod.mk.inj hrun
      exact ⟨[], fresh ++ more, rfl, by rwa [List.append_nil], by rwa [List.append_nil]⟩
    | cons visit passed =>
      obtain ⟨rfl, hothers⟩ := List.cons.inj hsplit
      obtain ⟨_, y, hvisit, hpassed⟩ := outcome_bind_eq_ok hrun
      obtain rfl : y = x := (Prod.mk.inj (hvisit.symm.trans hfirst)).2
      obtain ⟨early, late, hmore, hu, hshown⟩ := hcuts passed rest u hothers hpassed
      rw [List.append_assoc] at hu hshown
      exact ⟨fresh ++ early, late, by rw [hmore, List.append_assoc], hu, hshown⟩

end Workspace

end PascalWorkspace
