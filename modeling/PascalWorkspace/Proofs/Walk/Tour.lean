import Mathlib.Data.List.Sort
import Mathlib.Data.String.Basic
import PascalWorkspace.Proofs.FileTree.Follows
import PascalWorkspace.Proofs.Walk.Phases
import PascalWorkspace.Proofs.Walk.Visits

/-! The manifests that a walk comes to, without a bound on how far down it goes: depth first, those
of each directory by name before the directories in it by name. They are the manifests of all
directories that can be reached. -/
namespace PascalWorkspace

namespace Host

open FileTree

variable {h : Host} {loc place : Location} {name : String} {names : List String}
  {p directory : Path} {chosen others : List Path} {ask : Path → Except PathError Bool}

/-- A directory that is no link lies where its name says. -/
theorem locate_of_isRealDirectory (hname : IsFileName name) (hloc : h.locate directory = .ok loc)
    (hreal : h.isRealDirectory (directory.child name) = .ok true) :
    h.locate (directory.child name) = .ok (loc ++ [name]) ∧
      ∃ entry, h.tree.entryAt (loc ++ [name]) = some entry ∧ entry.isDirectory = true := by
  obtain ⟨hdirectory, hlink⟩ := isRealDirectory_eq_true hreal
  obtain ⟨place, hplace, hentry⟩ := exists_locate_of_test hdirectory
  have hparent : (directory.child name).parent = directory := by
    rw [Path.child_of_isPart hname.toIsPart, Path.parent, List.dropLast_concat]
  have hlast : (directory.child name).name = name := by
    simp [Path.child_of_isPart hname.toIsPart, Path.name]
  -- The name leads on from the place of the directory, and not through a link.
  have hway := (locate_eq_ok_iff.1 hplace).2
  rw [Path.child_of_isPart hname.toIsPart] at hway
  obtain ⟨fewer, mid, -, hfirst, hrest⟩ := hway.split
  obtain rfl : mid = loc := hfirst.unique (locate_eq_ok_iff.1 hloc).2
  cases hrest with
  | stay => exact absurd rfl hname.notDot
  | up => exact absurd rfl hname.notUp
  | link _ _ _ _ htarget =>
    rw [isLink, hparent, hloc, hlast] at hlink
    simp [htarget] at hlink
  | enter _ _ _ _ hfound _ hend =>
    cases hend
    rw [hfound] at hentry
    exact ⟨hplace, _, hfound, hentry⟩

/-- Of the names in a directory those were chosen whose paths pass a test, in their order. -/
structure ByName (ask : Path → Except PathError Bool) (directory : Path) (names : List String)
    (chosen : List Path) : Prop where
  mem_iff : ∀ p, p ∈ chosen ↔ (∃ name ∈ names, p = directory.child name) ∧ ask p = .ok true
  sorted : chosen.Pairwise fun a b => a.name < b.name

theorem ByName.unique (h : ByName ask directory names chosen)
    (h' : ByName ask directory names others) : chosen = others := by
  let before (a b : Path) : Prop := a.name < b.name
  have : Std.Irrefl before := ⟨fun a => lt_irrefl a.name⟩
  have : Std.Antisymm before := ⟨fun a b hab hba => absurd hba (lt_asymm hab)⟩
  refine List.Pairwise.eq_of_mem_iff (r := before) h.sorted h'.sorted fun p => ?_
  rw [h.mem_iff, h'.mem_iff]

theorem mem_of_select {ps qs : List Path} (hok : select ask ps = .ok qs) :
    p ∈ qs ↔ p ∈ ps ∧ ask p = .ok true := by
  induction ps generalizing qs with
  | nil =>
    obtain rfl := Except.ok.inj hok
    simp
  | cons q rest ih =>
    obtain ⟨yes, hask, hok⟩ := bind_eq_ok_iff.1 hok
    obtain ⟨others, hrest, hok⟩ := bind_eq_ok_iff.1 hok
    obtain rfl := Except.ok.inj hok
    have hq : p = q → (ask p = .ok true ↔ yes = true) := by
      rintro rfl
      simp [hask]
    cases yes <;> simp [ih hrest] <;> grind

/-- The children of a directory that pass a test are chosen by name. -/
theorem byName_of_childrenWhere (ht : h.tree.WellFormed)
    (hok : h.childrenWhere ask directory = .ok chosen) :
    ∃ names, h.childNames directory = .ok names ∧ ByName ask directory names chosen := by
  obtain ⟨names, hnames, hok⟩ := bind_eq_ok_iff.1 hok
  obtain ⟨picked, hselect, hok⟩ := bind_eq_ok_iff.1 hok
  obtain rfl := Except.ok.inj hok
  obtain ⟨loc, -, -, rfl⟩ := exists_of_childNames hnames
  have hperm := List.mergeSort_perm picked fun a b => decide (a.name ≤ b.name)
  have hchildren : ((h.tree.childNames loc).map directory.child).map Path.name =
      h.tree.childNames loc := by
    rw [List.map_map]
    refine (List.map_congr_left fun name hname => ?_).trans (List.map_id _)
    simp [Path.child_of_isPart (ht.isFileName hname).toIsPart, Path.name]
  have hnodup : ((picked.mergeSort fun a b => decide (a.name ≤ b.name)).map Path.name).Nodup := by
    rw [(hperm.map Path.name).nodup_iff]
    refine ((select_eq_ok hselect).1.map Path.name).nodup ?_
    rw [hchildren]
    exact ht.nodup_childNames loc
  refine ⟨_, hnames, fun p => ?_, ?_⟩
  · rw [hperm.mem_iff, mem_of_select hselect, List.mem_map]
    simp only [eq_comm]
  · have hle : (picked.mergeSort fun a b => decide (a.name ≤ b.name)).Pairwise
        fun a b => decide (a.name ≤ b.name) = true :=
      List.pairwise_mergeSort (by simpa using fun a b c => le_trans)
        (by simpa using fun a b : Path => le_total a.name b.name) picked
    exact (hle.and (List.pairwise_map.1 hnodup)).imp fun hab =>
      lt_of_le_of_ne (of_decide_eq_true hab.1) hab.2

end Host

namespace Visit

open FileTree Host

variable {h : Host} {extra : List String} {depth : Nat} {directory m : Path}
  {directories rest files others : List Path}

/-- The manifests that a walk comes to which has some directories before it, the next one in front.
A directory that is left out or cannot be listed has none, nor has anything below it. -/
inductive Tour (h : Host) (extra : List String) : List Path → List Path → Prop where
  | done : Tour h extra [] []
  | ignored {directory : Path} {rest files : List Path} (hd : isIgnored extra directory = true)
      (hrest : Tour h extra rest files) : Tour h extra (directory :: rest) files
  | refused {directory : Path} {rest files : List Path} {e : PathError}
      (hd : isIgnored extra directory = false) (hlist : listing h directory = .error e)
      (hrest : Tour h extra rest files) : Tour h extra (directory :: rest) files
  | entered {directory : Path} {names : List String} {listed : List Path × List Path}
      {manifests subdirectories rest files : List Path} (hd : isIgnored extra directory = false)
      (hlist : listing h directory = .ok listed) (hnames : h.childNames directory = .ok names)
      (hmanifests : ByName h.isManifestFile directory names manifests)
      (hsubdirectories : ByName h.isRealDirectory directory names subdirectories)
      (hrest : Tour h extra (subdirectories ++ rest) files) :
      Tour h extra (directory :: rest) (manifests ++ files)

/-- There is only one tour. -/
theorem Tour.unique (h₁ : Tour h extra directories files) (h₂ : Tour h extra directories others) :
    files = others := by
  induction h₁ generalizing others with
  | done =>
    cases h₂
    rfl
  | ignored hd _ ih =>
    cases h₂ with
    | ignored _ hrest => exact ih hrest
    | refused hd' => simp [hd] at hd'
    | entered hd' => simp [hd] at hd'
  | refused hd hlist _ ih =>
    cases h₂ with
    | ignored hd' => simp [hd] at hd'
    | refused _ _ hrest => exact ih hrest
    | entered _ hlist' => simp [hlist] at hlist'
  | entered hd hlist hnames hmanifests hsubdirectories _ ih =>
    cases h₂ with
    | ignored hd' => simp [hd] at hd'
    | refused _ hlist' => simp [hlist] at hlist'
    | entered _ _ hnames' hmanifests' hsubdirectories' hrest =>
      obtain rfl := Except.ok.inj (hnames.symm.trans hnames')
      obtain rfl := hmanifests.unique hmanifests'
      obtain rfl := hsubdirectories.unique hsubdirectories'
      rw [ih hrest]

theorem byName_of_listing (ht : h.tree.WellFormed)
    (hok : listing h directory = .ok (files, others)) :
    ∃ names, h.childNames directory = .ok names ∧ ByName h.isManifestFile directory names files ∧
      ByName h.isRealDirectory directory names others := by
  obtain ⟨manifests, hfiles, hok⟩ := bind_eq_ok_iff.1 hok
  obtain ⟨subdirectories, hothers, hok⟩ := bind_eq_ok_iff.1 hok
  obtain ⟨rfl, rfl⟩ := Prod.mk.inj (Except.ok.inj hok)
  obtain ⟨names, hnames, hmanifests⟩ := byName_of_childrenWhere ht hfiles
  obtain ⟨names', hnames', hsubdirectories⟩ := byName_of_childrenWhere ht hothers
  obtain rfl := Except.ok.inj (hnames.symm.trans hnames')
  exact ⟨names, hnames, hmanifests, hsubdirectories⟩

/-- From a directory on the tree goes down by less than so many levels. -/
def Shallow (h : Host) (depth : Nat) (directory : Path) : Prop :=
  ∀ loc, h.locate directory = .ok loc → h.tree.depth < loc.length + depth

theorem shallow_all (h : Host) (directory : Path) : Shallow h (h.tree.depth + 1) directory :=
  fun _ _ => by omega

/-- A directory deeper than the tree cannot be listed. -/
theorem exists_error_of_shallow (hshallow : Shallow h 0 directory) :
    ∃ e, listing h directory = .error e := by
  have hnames : ∃ e, h.childNames directory = .error e := by
    cases hnames : h.childNames directory with
    | error e => exact ⟨e, rfl⟩
    | ok names =>
      obtain ⟨loc, hloc, hentry, -⟩ := exists_of_childNames hnames
      have hdeep := hshallow loc hloc
      have hlength := length_le_depth hentry
      omega
  obtain ⟨e, he⟩ := hnames
  exact ⟨e, by simp [listing, manifestsIn, childrenWhere, he, bind, Except.bind]⟩

/-- The directories in a directory have one level less below them. -/
theorem Shallow.child (ht : h.tree.WellFormed) (hshallow : Shallow h (depth + 1) directory)
    (hok : listing h directory = .ok (files, others)) : ∀ d ∈ others, Shallow h depth d := by
  obtain ⟨names, hnames, -, hothers⟩ := byName_of_listing ht hok
  obtain ⟨loc, hloc, -, rfl⟩ := exists_of_childNames hnames
  intro d hd place hplace
  obtain ⟨⟨name, hname, rfl⟩, hreal⟩ := (hothers.mem_iff d).1 hd
  obtain ⟨hchild, -⟩ := locate_of_isRealDirectory (ht.isFileName hname) hloc hreal
  obtain rfl := Except.ok.inj (hchild.symm.trans hplace)
  have hdeep := hshallow loc hloc
  rw [List.length_append, List.length_singleton]
  omega

/-- Walks that go down far enough make a tour. -/
theorem tour_below (ht : h.tree.WellFormed) (depth : Nat)
    (hshallow : ∀ d ∈ directories, Shallow h depth d) (hrest : Tour h extra rest files) :
    Tour h extra (directories ++ rest)
      ((directories.flatMap (below h extra depth)).flatMap listed ++ files) := by
  induction depth generalizing directories rest files with
  | zero =>
    have hnone : directories.flatMap (below h extra 0) = [] :=
      List.flatMap_eq_nil_iff.2 fun _ _ => rfl
    rw [hnone, List.flatMap_nil, List.nil_append]
    clear hnone
    induction directories with
    | nil => exact hrest
    | cons d directories ih =>
      obtain ⟨hd, hdirectories⟩ := List.forall_mem_cons.1 hshallow
      have hlater := ih hdirectories
      cases hignored : isIgnored extra d with
      | true => exact .ignored hignored hlater
      | false =>
        obtain ⟨e, he⟩ := exists_error_of_shallow hd
        exact .refused hignored he hlater
  | succ depth ihDepth =>
    induction directories with
    | nil => exact hrest
    | cons d directories ih =>
      obtain ⟨hd, hdirectories⟩ := List.forall_mem_cons.1 hshallow
      have hlater := ih hdirectories
      rw [List.flatMap_cons, List.flatMap_append, List.append_assoc, below]
      cases hignored : isIgnored extra d with
      | true => exact .ignored hignored hlater
      | false =>
        cases hlist : listing h d with
        | error e => exact .refused hignored hlist hlater
        | ok found =>
          obtain ⟨manifests, subdirectories⟩ := found
          obtain ⟨names, hnames, hmanifests, hsubdirectories⟩ := byName_of_listing ht hlist
          have hinside := ihDepth (hd.child ht hlist) hlater
          rw [if_neg Bool.false_ne_true, List.flatMap_cons, List.append_assoc]
          exact .entered hignored hlist hnames hmanifests hsubdirectories hinside

/-- The manifests on the way of a walk are those of a tour. -/
theorem tour_all (ht : h.tree.WellFormed) (extra : List String) (directory : Path) :
    Tour h extra [directory] ((all h extra directory).flatMap listed) := by
  have hshallow : ∀ d ∈ [directory], Shallow h (h.tree.depth + 1) d :=
    fun d _ => shallow_all h d
  have htour : Tour h extra ([directory] ++ []) _ := tour_below ht _ hshallow .done
  simpa [all] using htour

/-! ### The directories that can be reached -/

/-- A walk goes into a directory that is not left out and can be listed. -/
def Enters (h : Host) (extra : List String) (directory : Path) : Prop :=
  isIgnored extra directory = false ∧ ∃ listed, listing h directory = .ok listed

/-- A directory has a child. -/
def HasChild (h : Host) (directory child : Path) : Prop :=
  ∃ names, h.childNames directory = .ok names ∧ ∃ name ∈ names, child = directory.child name

/-- A walk goes down from a directory into another in it that is no link. -/
def Down (h : Host) (extra : List String) (directory child : Path) : Prop :=
  HasChild h directory child ∧ h.isRealDirectory child = .ok true ∧ Enters h extra child

/-- A walk comes to the manifests in the directories that can be reached. -/
theorem Tour.mem_iff (htour : Tour h extra directories files) : m ∈ files ↔
    ∃ start ∈ directories, Enters h extra start ∧ ∃ d,
      Relation.ReflTransGen (Down h extra) start d ∧ HasChild h d m ∧
      h.isManifestFile m = .ok true := by
  induction htour with
  | done => simp
  | ignored hd _ ih =>
    rw [ih, List.exists_mem_cons_iff]
    simp [Enters, hd]
  | refused hd hlist _ ih =>
    rw [ih, List.exists_mem_cons_iff]
    simp [Enters, hlist]
  | @entered directory names listed manifests subdirectories rest files hd hlist hnames hmanifests
      hsubdirectories _ ih =>
    have hchild (p : Path) : HasChild h directory p ↔ ∃ name ∈ names, p = directory.child name := by
      simp [HasChild, hnames]
    have hdown (p : Path) : Down h extra directory p ↔ p ∈ subdirectories ∧ Enters h extra p := by
      rw [Down, hchild, hsubdirectories.mem_iff, and_assoc]
    rw [List.mem_append, ih, hmanifests.mem_iff, ← hchild, List.exists_mem_cons_iff]
    simp only [List.mem_append, or_and_right, exists_or]
    rw [← or_assoc]
    refine or_congr_left ⟨?_, ?_⟩
    · rintro (hm | ⟨start, hstart, henters, d, hway, hm⟩)
      · exact ⟨⟨hd, _, hlist⟩, directory, .refl, hm⟩
      · exact ⟨⟨hd, _, hlist⟩, d, .head ((hdown start).2 ⟨hstart, henters⟩) hway, hm⟩
    · rintro ⟨-, d, hway, hm⟩
      obtain rfl | ⟨start, hfirst, hway⟩ := Relation.ReflTransGen.cases_head hway
      · exact .inl hm
      · obtain ⟨hstart, henters⟩ := (hdown start).1 hfirst
        exact .inr ⟨start, hstart, henters, d, hway, hm⟩

end Visit

end PascalWorkspace
