import Mathlib.Data.List.Infix
import PascalWorkspace.Proofs.Except
import PascalWorkspace.Proofs.Host.Entries
import PascalWorkspace.Walk.Visit

/-! The directories on the way of a walk: from a place that is reached without links a walk comes to
such places only, and to each of them once. -/
namespace PascalWorkspace

namespace Host

open FileTree

variable {h : Host} {loc loc' : Location} {name : String} {names : List String} {p q : Path}
  {ps qs : List Path} {ask : Path → Except PathError Bool}

/-- A clean place is where its path leads, if that leads anywhere. -/
theorem locate_pathOf (hloc : Clean h.tree loc) (hok : h.locate (pathOf loc) = .ok loc') :
    loc' = loc := by
  rw [locate, holdsNul_pathOf hloc, if_neg Bool.false_ne_true] at hok
  have hfollow : h.tree.locate [] loc = .ok loc ∨
      ∃ e, e ≠ .tooManyLinks ∧ h.tree.locate [] loc = .error e := follow_of_clean hloc
  have hstart : h.start (pathOf loc) = [] := rfl
  rw [hstart] at hok
  obtain heq | ⟨e, -, heq⟩ := hfollow
  · rw [heq] at hok
    exact (Except.ok.inj hok).symm
  · rw [heq] at hok
    cases hok

theorem childNames_pathOf (hloc : Clean h.tree loc) (hok : h.childNames (pathOf loc) = .ok names) :
    h.locate (pathOf loc) = .ok loc ∧ names = h.tree.childNames loc := by
  unfold childNames at hok
  split at hok
  · cases hok
  · next loc' hlocate =>
    obtain rfl := locate_pathOf hloc hlocate
    split at hok
    · exact ⟨hlocate, (Except.ok.inj hok).symm⟩
    · cases hok

theorem child_pathOf (hname : IsFileName name) :
    (pathOf loc).child name = pathOf (loc ++ [name]) := by
  rw [Path.child_of_isPart hname.toIsPart]

theorem select_eq_ok (hok : select ask ps = .ok qs) :
    qs.Sublist ps ∧ ∀ q ∈ qs, ask q = .ok true := by
  induction ps generalizing qs with
  | nil =>
    obtain rfl := Except.ok.inj hok
    exact ⟨.slnil, fun _ hq => nomatch hq⟩
  | cons p rest ih =>
    obtain ⟨yes, hask, hok⟩ := bind_eq_ok_iff.1 hok
    obtain ⟨others, hrest, hok⟩ := bind_eq_ok_iff.1 hok
    obtain ⟨hsub, hall⟩ := ih hrest
    obtain rfl := Except.ok.inj hok
    cases yes with
    | false => exact ⟨hsub.cons p, hall⟩
    | true =>
      refine ⟨hsub.cons_cons p, fun q hq => ?_⟩
      obtain rfl | hq := List.mem_cons.1 hq
      · exact hask
      · exact hall q hq

theorem isRealDirectory_eq_true (hp : h.isRealDirectory p = .ok true) :
    h.isDirectory p = .ok true ∧ h.isLink p = false := by
  obtain ⟨directory, hdirectory, hreturn⟩ := bind_eq_ok_iff.1 hp
  obtain ⟨rfl, hlink⟩ : directory = true ∧ h.isLink p = false := by
    simpa using Except.ok.inj hreturn
  exact ⟨hdirectory, hlink⟩

/-- A child that is a directory and no link is at a clean place. -/
theorem clean_of_isRealDirectory (hloc : Clean h.tree loc)
    (hlocate : h.locate (pathOf loc) = .ok loc) (hname : IsFileName name)
    (hreal : h.isRealDirectory (pathOf (loc ++ [name])) = .ok true) :
    Clean h.tree (loc ++ [name]) := by
  refine hloc.child hname fun target hentry => ?_
  have hparent : (pathOf (loc ++ [name])).parent = pathOf loc := by
    simp [Path.parent, pathOf]
  have hlast : (pathOf (loc ++ [name])).name = name := by
    simp [Path.name]
  have hlink : h.isLink (pathOf (loc ++ [name])) = true := by
    rw [isLink, hparent, hlocate, hlast]
    simp [hentry]
  rw [(isRealDirectory_eq_true hreal).2] at hlink
  cases hlink

/-- The directories in a clean directory are different and clean. -/
theorem subdirectories_pathOf (ht : h.tree.WellFormed) (hloc : Clean h.tree loc)
    (hok : h.subdirectoriesOf (pathOf loc) = .ok qs) :
    qs.Nodup ∧ ∀ q ∈ qs, ∃ name, q = pathOf (loc ++ [name]) ∧ Clean h.tree (loc ++ [name]) := by
  obtain ⟨names, hnames, hok⟩ := bind_eq_ok_iff.1 hok
  obtain ⟨chosen, hselect, hok⟩ := bind_eq_ok_iff.1 hok
  obtain rfl := Except.ok.inj hok
  obtain ⟨hlocate, rfl⟩ := childNames_pathOf hloc hnames
  obtain ⟨hsub, hall⟩ := select_eq_ok hselect
  have hchild (name : String) (hname : name ∈ h.tree.childNames loc) :
      (pathOf loc).child name = pathOf (loc ++ [name]) := child_pathOf (ht.isFileName hname)
  have hnodup : ((h.tree.childNames loc).map (pathOf loc).child).Nodup := by
    rw [List.map_congr_left hchild]
    refine (ht.nodup_childNames loc).map fun a b hab => ?_
    simpa using hab
  refine ⟨(List.mergeSort_perm _ _).nodup_iff.2 (hsub.nodup hnodup), fun q hq => ?_⟩
  have hq := (List.mergeSort_perm _ _).mem_iff.1 hq
  obtain ⟨name, hname, rfl⟩ := List.mem_map.1 (hsub.subset hq)
  have hreal := hall _ hq
  rw [hchild name hname] at hreal ⊢
  exact ⟨name, rfl, clean_of_isRealDirectory hloc hlocate (ht.isFileName hname) hreal⟩

end Host

namespace Visit

open FileTree Host

variable {h : Host} {extra : List String} {loc : Location} {depth : Nat} {visit : Visit}

theorem subdirectories_of_listing {manifests subdirectories : List Path} {directory : Path}
    (hok : listing h directory = .ok (manifests, subdirectories)) :
    h.subdirectoriesOf directory = .ok subdirectories := by
  obtain ⟨others, -, hok⟩ := bind_eq_ok_iff.1 hok
  obtain ⟨qs, hqs, hok⟩ := bind_eq_ok_iff.1 hok
  rwa [← (Prod.mk.inj (Except.ok.inj hok)).2]

/-- A walk comes to clean places below the one that it begins at. -/
theorem clean_of_mem_below (ht : h.tree.WellFormed) (hloc : Clean h.tree loc)
    (hvisit : visit ∈ below h extra depth (pathOf loc)) :
    ∃ place, visit.directory = pathOf place ∧ loc <+: place ∧ Clean h.tree place := by
  induction depth generalizing loc with
  | zero => cases hvisit
  | succ depth ih =>
    rw [below] at hvisit
    split at hvisit
    · cases hvisit
    · split at hvisit
      · obtain rfl := List.mem_singleton.1 hvisit
        exact ⟨loc, rfl, List.prefix_refl _, hloc⟩
      · next manifests subdirectories hlisting =>
        obtain rfl | hvisit := List.mem_cons.1 hvisit
        · exact ⟨loc, rfl, List.prefix_refl _, hloc⟩
        · obtain ⟨q, hq, hvisit⟩ := List.mem_flatMap.1 hvisit
          obtain ⟨-, hclean⟩ := subdirectories_pathOf ht hloc (subdirectories_of_listing hlisting)
          obtain ⟨name, rfl, hchild⟩ := hclean q hq
          obtain ⟨place, hplace, hprefix, hclean⟩ := ih hchild hvisit
          exact ⟨place, hplace, (List.prefix_append _ _).trans hprefix, hclean⟩

/-- A walk comes to no directory twice. -/
theorem nodup_below (ht : h.tree.WellFormed) (hloc : Clean h.tree loc) (depth : Nat) :
    ((below h extra depth (pathOf loc)).map (·.directory)).Nodup := by
  induction depth generalizing loc with
  | zero => exact .nil
  | succ depth ih =>
    rw [below]
    split
    · exact .nil
    · split
      · exact List.nodup_singleton _
      · next manifests subdirectories hlisting =>
        obtain ⟨hnodup, hclean⟩ :=
          subdirectories_pathOf ht hloc (subdirectories_of_listing hlisting)
        -- What is met below a child lies below that child.
        have hbelow {q d : Path} (hq : q ∈ subdirectories)
            (hd : d ∈ (below h extra depth q).map (·.directory)) :
            ∃ name place, q = pathOf (loc ++ [name]) ∧ d = pathOf place ∧
              loc ++ [name] <+: place := by
          obtain ⟨name, rfl, hchild⟩ := hclean q hq
          obtain ⟨visit, hvisit, rfl⟩ := List.mem_map.1 hd
          obtain ⟨place, hplace, hprefix, -⟩ := clean_of_mem_below ht hchild hvisit
          exact ⟨name, place, rfl, hplace, hprefix⟩
        rw [List.map_cons, List.map_flatMap, List.nodup_cons]
        refine ⟨fun hmem => ?_, List.nodup_flatMap.2 ⟨fun q hq => ?_, ?_⟩⟩
        · obtain ⟨q, hq, hd⟩ := List.mem_flatMap.1 hmem
          obtain ⟨name, place, -, hplace, hprefix⟩ := hbelow hq hd
          obtain rfl : loc = place := congrArg Path.parts hplace
          have hlength := hprefix.length_le
          rw [List.length_append, List.length_singleton] at hlength
          omega
        · obtain ⟨name, rfl, hchild⟩ := hclean q hq
          exact ih hchild
        · refine hnodup.imp_of_mem fun hp hq hne d hdp hdq => hne ?_
          obtain ⟨name, place, rfl, rfl, hprefix⟩ := hbelow hp hdp
          obtain ⟨name', place', rfl, hplace, hprefix'⟩ := hbelow hq hdq
          obtain rfl : place = place' := congrArg Path.parts hplace
          have hsame : loc ++ [name] = loc ++ [name'] :=
            (List.prefix_of_prefix_length_le hprefix hprefix' (by simp)).eq_of_length (by simp)
          rw [hsame]

theorem directory_ne_of_split {passed rest : List Visit} {other : Visit} (ht : h.tree.WellFormed)
    (hloc : Clean h.tree loc) (hsplit : all h extra (pathOf loc) = passed ++ visit :: rest)
    (hother : other ∈ passed ++ rest) : other.directory ≠ visit.directory := by
  have hnodup : ((all h extra (pathOf loc)).map (·.directory)).Nodup := nodup_below ht hloc _
  rw [hsplit, List.map_append, List.map_cons, List.nodup_middle, ← List.map_append] at hnodup
  have hnot := (List.nodup_cons.1 hnodup).1
  exact fun heq => hnot (heq ▸ List.mem_map_of_mem hother)

/-- A directory that has a manifest in it and nothing else is on the way alone. -/
theorem all_of_only_child {directory m : Path} {name : String} {content : List UInt8}
    (hignored : isIgnored extra directory = false) (hnames : h.childNames directory = .ok [name])
    (hchild : directory.child name = m) (hloc : h.locate m = .ok loc)
    (hentry : h.tree.entryAt loc = some (.file content)) (hmanifest : isManifest m = true) :
    all h extra directory = [⟨directory, .ok [m]⟩] := by
  have hfile : h.isManifestFile m = .ok true := by
    simp [isManifestFile, isFile, test, entry?, hloc, hentry, hmanifest, bind, Except.bind, pure,
      Except.pure]
  have hdirectory : h.isRealDirectory m = .ok false := by
    simp [isRealDirectory, isDirectory, test, entry?, hloc, hentry, bind, Except.bind, pure,
      Except.pure]
  have hlisting : listing h directory = .ok ([m], []) := by
    simp [listing, manifestsIn, subdirectoriesOf, childrenWhere, select, hnames, hchild, hfile,
      hdirectory, bind, Except.bind, pure, Except.pure]
  simp [all, below, hignored, hlisting]

end Visit

end PascalWorkspace
