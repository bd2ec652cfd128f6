import PascalWorkspace.Proofs.Walk.InStep
import PascalWorkspace.Proofs.Walk.Located

/-! Walks over two machines that list the same in each directory, or more manifests of a kind. They
lead through the same directories. -/
namespace PascalWorkspace

section Padded

variable {α : Type} {extra : α → Prop} {xs ys : List α}

theorem Padded.eq_of_none (h : Padded extra xs ys) (hnone : ∀ y, ¬ extra y) : xs = ys := by
  induction h with
  | nil => rfl
  | same x _ ih => rw [ih]
  | more hy => exact (hnone _ hy).elim

theorem Padded.imp {extra' : α → Prop} (h : Padded extra xs ys)
    (himp : ∀ y ∈ ys, extra y → extra' y) : Padded extra' xs ys := by
  induction h with
  | nil => exact .nil
  | same x _ ih => exact .same x (ih fun y hy => himp y (List.mem_cons_of_mem _ hy))
  | more hy _ ih =>
    exact .more (himp _ List.mem_cons_self hy) (ih fun y hy => himp y (List.mem_cons_of_mem _ hy))

/-- Of two sorted lists the longer is the shorter with more members in between. -/
theorem padded_of_pairwise {before : α → α → Prop} (hirrefl : ∀ x, ¬ before x x)
    (hasymm : ∀ x y, before x y → ¬ before y x) (hxs : xs.Pairwise before)
    (hys : ys.Pairwise before) (hsub : xs ⊆ ys) (hmore : ∀ y ∈ ys, y ∈ xs ∨ extra y) :
    Padded extra xs ys := by
  induction ys generalizing xs with
  | nil =>
    obtain rfl := List.subset_nil.1 hsub
    exact .nil
  | cons y ys ih =>
    obtain ⟨hfirst, hlater⟩ := List.pairwise_cons.1 hys
    obtain ⟨hy, hrest⟩ := List.forall_mem_cons.1 hmore
    by_cases hmem : y ∈ xs
    · cases xs with
      | nil => cases hmem
      | cons x xs =>
        obtain ⟨hxfirst, hxs⟩ := List.pairwise_cons.1 hxs
        -- The first members are the same, since each of them comes before the other if not.
        obtain rfl : x = y := by
          by_contra hne
          have hxy := hfirst x ((List.mem_cons.1 (hsub List.mem_cons_self)).resolve_left hne)
          exact hasymm _ _ hxy (hxfirst y ((List.mem_cons.1 hmem).resolve_left (Ne.symm hne)))
        refine .same x (ih hxs hlater (fun z hz => ?_) fun z hz => ?_)
        · refine (List.mem_cons.1 (hsub (List.mem_cons_of_mem _ hz))).resolve_left ?_
          rintro rfl
          exact hirrefl _ (hxfirst _ hz)
        · refine (hrest z hz).imp_left fun hz' => (List.mem_cons.1 hz').resolve_left ?_
          rintro rfl
          exact hirrefl _ (hfirst _ hz)
    · refine .more (hy.resolve_left hmem) (ih hxs hlater (fun z hz => ?_) hrest)
      refine (List.mem_cons.1 (hsub hz)).resolve_left ?_
      rintro rfl
      exact hmem hz

end Padded

namespace Host

variable {h h' : Host} {extra : Path → Prop} {directory : Path} {names names' : List String}
  {ask ask' : Path → Except PathError Bool} {ps : List Path}

theorem exists_select_iff : (∃ qs, select ask ps = .ok qs) ↔ ∀ p ∈ ps, ∃ yes, ask p = .ok yes := by
  induction ps with
  | nil => simp [select]
  | cons p rest ih =>
    rw [List.forall_mem_cons, ← ih]
    constructor
    · rintro ⟨qs, hok⟩
      obtain ⟨yes, hask, hok⟩ := bind_eq_ok_iff.1 hok
      obtain ⟨others, hrest, -⟩ := bind_eq_ok_iff.1 hok
      exact ⟨⟨yes, hask⟩, others, hrest⟩
    · rintro ⟨⟨yes, hask⟩, others, hrest⟩
      refine ⟨if yes then p :: others else others, ?_⟩
      rw [select, hask, hrest]
      rfl

/-- The children of a directory can be chosen if the test has an answer for each of them. -/
theorem exists_childrenWhere_iff (hnames : h.childNames directory = .ok names) :
    (∃ chosen, h.childrenWhere ask directory = .ok chosen) ↔
      ∀ name ∈ names, ∃ yes, ask (directory.child name) = .ok yes := by
  rw [← List.forall_mem_map (f := directory.child) (P := fun p => ∃ yes, ask p = .ok yes),
    ← exists_select_iff]
  simp only [childrenWhere, hnames, bind, Except.bind]
  cases select ask (names.map directory.child) <;> simp [pure, Except.pure]

variable (extra) in
/-- Two machines choose the same children of a directory, or both choose none for an error. The
second may have more names to choose from, and may choose what the first does not. -/
theorem childrenWhere_alike (ht : h.tree.WellFormed) (ht' : h'.tree.WellFormed)
    (hnames : h.childNames directory = .ok names) (hnames' : h'.childNames directory = .ok names')
    (hsub : names ⊆ names')
    (hask : ∀ name ∈ names, ask (directory.child name) = ask' (directory.child name) ∨
      ask (directory.child name) = .ok false ∧ ∃ yes, ask' (directory.child name) = .ok yes ∧
        (yes = true → extra (directory.child name)))
    (hmore : ∀ name ∈ names', name ∈ names ∨ ∃ yes, ask' (directory.child name) = .ok yes ∧
      (yes = true → extra (directory.child name))) :
    (∃ ps qs, h.childrenWhere ask directory = .ok ps ∧ h'.childrenWhere ask' directory = .ok qs ∧
      Padded extra ps qs) ∨
    ∃ e e', h.childrenWhere ask directory = .error e ∧
      h'.childrenWhere ask' directory = .error e' := by
  have hiff : (∃ ps, h.childrenWhere ask directory = .ok ps) ↔
      ∃ qs, h'.childrenWhere ask' directory = .ok qs := by
    rw [exists_childrenWhere_iff hnames, exists_childrenWhere_iff hnames']
    refine ⟨fun hall name hname => ?_, fun hall name hname => ?_⟩
    · obtain hname | ⟨yes, hyes, -⟩ := hmore name hname
      · obtain hsame | ⟨-, yes, hyes, -⟩ := hask name hname
        · exact hsame ▸ hall name hname
        · exact ⟨yes, hyes⟩
      · exact ⟨yes, hyes⟩
    · obtain hsame | ⟨hno, -⟩ := hask name hname
      · exact hsame ▸ hall name (hsub hname)
      · exact ⟨false, hno⟩
  cases hps : h.childrenWhere ask directory with
  | error e =>
    cases hqs : h'.childrenWhere ask' directory with
    | error e' => exact .inr ⟨e, e', rfl, rfl⟩
    | ok qs =>
      obtain ⟨ps, hok⟩ := hiff.2 ⟨qs, hqs⟩
      rw [hps] at hok
      cases hok
  | ok ps =>
    obtain ⟨qs, hqs⟩ := hiff.1 ⟨ps, hps⟩
    refine .inl ⟨ps, qs, rfl, hqs, ?_⟩
    obtain ⟨_, heq, hby⟩ := byName_of_childrenWhere ht hps
    obtain rfl := Except.ok.inj (hnames.symm.trans heq)
    obtain ⟨_, heq', hby'⟩ := byName_of_childrenWhere ht' hqs
    obtain rfl := Except.ok.inj (hnames'.symm.trans heq')
    refine padded_of_pairwise (fun p => lt_irrefl p.name) (fun p q => lt_asymm) hby.sorted
      hby'.sorted (fun p hp => ?_) fun q hq => ?_
    · obtain ⟨⟨name, hname, rfl⟩, hyes⟩ := (hby.mem_iff p).1 hp
      refine (hby'.mem_iff _).2 ⟨⟨name, hsub hname, rfl⟩, ?_⟩
      obtain hsame | ⟨hno, -⟩ := hask name hname
      · exact hsame ▸ hyes
      · rw [hno] at hyes
        cases hyes
    · obtain ⟨⟨name, hname, rfl⟩, hyes⟩ := (hby'.mem_iff q).1 hq
      obtain hname | ⟨yes, hanswer, hextra⟩ := hmore name hname
      · obtain hsame | ⟨-, yes, hanswer, hextra⟩ := hask name hname
        · exact .inl ((hby.mem_iff _).2 ⟨⟨name, hname, rfl⟩, hsame.trans hyes⟩)
        · exact .inr (hextra (Except.ok.inj (hanswer.symm.trans hyes)))
      · exact .inr (hextra (Except.ok.inj (hanswer.symm.trans hyes)))

/-- What two machines tell about the names in a directory. The second may list more names, none of a
directory, and may find manifests where the first finds none. -/
structure NamesAlike (extra : Path → Prop) (h h' : Host) (directory : Path)
    (names names' : List String) : Prop where
  sub : names ⊆ names'
  isManifestFile : ∀ name ∈ names,
    h.isManifestFile (directory.child name) = h'.isManifestFile (directory.child name) ∨
      h.isManifestFile (directory.child name) = .ok false ∧
        ∃ yes, h'.isManifestFile (directory.child name) = .ok yes ∧
          (yes = true → extra (directory.child name))
  isRealDirectory : ∀ name ∈ names,
    h.isRealDirectory (directory.child name) = h'.isRealDirectory (directory.child name)
  more : ∀ name ∈ names', name ∈ names ∨
    (∃ yes, h'.isManifestFile (directory.child name) = .ok yes ∧
      (yes = true → extra (directory.child name))) ∧
    h'.isRealDirectory (directory.child name) = .ok false

/-- What two machines tell about a directory. -/
inductive ListsAlike (extra : Path → Prop) (h h' : Host) (directory : Path) : Prop where
  | listed {names names' : List String} (hnames : h.childNames directory = .ok names)
      (hnames' : h'.childNames directory = .ok names')
      (halike : NamesAlike extra h h' directory names names')
  | refused {e e' : PathError} (he : h.childNames directory = .error e) (hrefusal : e.IsRefusal)
      (he' : h'.childNames directory = .error e') (hrefusal' : e'.IsRefusal)
  | failed {e : PathError} (he : h.childNames directory = .error e)
      (he' : h'.childNames directory = .error e)

end Host

namespace Visit

open Host

variable {h h' : Host} {extra : Path → Prop} {ignored : List String} {directory : Path}
  {depth : Nat}

/-- Two listings of a directory with the same directories in it. -/
inductive SameListing (extra : Path → Prop) :
    Except PathError (List Path × List Path) → Except PathError (List Path × List Path) → Prop where
  | listed {ms ms' : List Path} (h : Padded extra ms ms') (subdirectories : List Path) :
    SameListing extra (.ok (ms, subdirectories)) (.ok (ms', subdirectories))
  | refused {e e' : PathError} (h : e.IsRefusal) (h' : e'.IsRefusal) :
    SameListing extra (.error e) (.error e')
  | failed (e : PathError) : SameListing extra (.error e) (.error e)

theorem sameListing_of_listsAlike (ht : h.tree.WellFormed) (ht' : h'.tree.WellFormed)
    (hlists : ListsAlike extra h h' directory) :
    SameListing extra (listing h directory) (listing h' directory) := by
  have hstop {k : Host} {e : PathError} (he : k.childNames directory = .error e) :
      listing k directory = .error e := by
    simp only [listing, manifestsIn, childrenWhere, he, bind, Except.bind]
  cases hlists with
  | failed he he' =>
    rw [hstop he, hstop he']
    exact .failed _
  | refused he hrefusal he' hrefusal' =>
    rw [hstop he, hstop he']
    exact .refused hrefusal hrefusal'
  | @listed names names' hnames hnames' halike =>
    obtain ⟨loc, hloc, -⟩ := exists_of_childNames hnames
    obtain ⟨loc', hloc', -⟩ := exists_of_childNames hnames'
    have hmanifests := childrenWhere_alike extra ht ht' hnames hnames' halike.sub
      halike.isManifestFile fun name hname => (halike.more name hname).imp_right And.left
    have hdirectories := childrenWhere_alike (fun _ => False) ht ht' hnames hnames'
      halike.sub (fun name hname => .inl (halike.isRealDirectory name hname)) fun name hname =>
        (halike.more name hname).imp_right fun hextra => ⟨false, hextra.2, Bool.noConfusion⟩
    unfold listing manifestsIn subdirectoriesOf
    obtain ⟨ms, ms', hms, hms', hpadded⟩ | ⟨e, e', he, he'⟩ := hmanifests
    · rw [hms, hms']
      obtain ⟨ds, ds', hds, hds', hsame⟩ | ⟨e, e', he, he'⟩ := hdirectories
      · obtain rfl := hsame.eq_of_none fun _ => id
        rw [hds, hds']
        exact .listed hpadded ds
      · rw [he, he']
        exact .refused
          (isRefusal_of_childrenWhere (fun _ _ => isRefusal_of_isRealDirectory) hloc he)
          (isRefusal_of_childrenWhere (fun _ _ => isRefusal_of_isRealDirectory) hloc' he')
    · rw [he, he']
      exact .refused
        (isRefusal_of_childrenWhere (fun _ _ => isRefusal_of_isManifestFile) hloc he)
        (isRefusal_of_childrenWhere (fun _ _ => isRefusal_of_isManifestFile) hloc' he')

theorem Alike.imp {extra' : Path → Prop} {v v' : Visit} (h : v.Alike extra v')
    (himp : ∀ m ∈ v'.listed, extra m → extra' m) : v.Alike extra' v' := by
  cases h with
  | listed directory hpadded => exact .listed directory (hpadded.imp himp)
  | refused directory e e' path path' => exact .refused directory e e' path path'
  | failed directory e => exact .failed directory e

theorem alike_below (hsame : ∀ d, SameListing extra (listing h d) (listing h' d)) (depth : Nat)
    (directory : Path) : List.Forall₂ (Visit.Alike extra) (below h ignored depth directory)
      (below h' ignored depth directory) := by
  induction depth generalizing directory with
  | zero => exact .nil
  | succ depth ih =>
    rw [below, below]
    split
    · exact .nil
    · have hlisting := hsame directory
      generalize listing h directory = found at hlisting ⊢
      generalize listing h' directory = found' at hlisting ⊢
      cases hlisting with
      | failed e => exact .cons (.failed directory e) .nil
      | refused hrefusal hrefusal' =>
        obtain ⟨e, path, rfl⟩ := hrefusal
        obtain ⟨e', path', rfl⟩ := hrefusal'
        exact .cons (.refused directory e e' path path') .nil
      | listed hpadded subdirectories =>
        refine .cons (.listed directory hpadded) ?_
        exact List.rel_flatMap (List.forall₂_same.2 fun _ _ => rfl) fun d _ heq => heq ▸ ih d

/-- A directory in a directory lies no deeper than the tree. -/
theorem pos_of_shallow_child {files others : List Path} (ht : h.tree.WellFormed)
    (hok : listing h directory = .ok (files, others)) {d : Path} (hd : d ∈ others)
    (hshallow : Shallow h depth d) : 0 < depth := by
  obtain ⟨names, hnames, -, hothers⟩ := byName_of_listing ht hok
  obtain ⟨loc, hloc, -, rfl⟩ := exists_of_childNames hnames
  obtain ⟨⟨name, hname, rfl⟩, hreal⟩ := (hothers.mem_iff d).1 hd
  obtain ⟨hchild, entry, hentry, -⟩ := locate_of_isRealDirectory (ht.isFileName hname) hloc hreal
  have hdeep := hshallow _ hchild
  have hlength := FileTree.length_le_depth hentry
  omega

/-- A walk that may go down further than the tree finds no more. -/
theorem below_of_shallow (ht : h.tree.WellFormed) (hshallow : Shallow h (depth + 1) directory)
    (more : Nat) : below h ignored (depth + 1 + more) directory =
      below h ignored (depth + 1) directory := by
  induction depth generalizing directory with
  | zero =>
    rw [Nat.zero_add, Nat.add_comm, below, below]
    split
    · rfl
    · split
      · rfl
      · next manifests subdirectories hlisting =>
        have hnone : subdirectories = [] := List.eq_nil_iff_forall_not_mem.2 fun d hd =>
          absurd (pos_of_shallow_child ht hlisting hd (hshallow.child ht hlisting d hd))
            (Nat.lt_irrefl 0)
        rw [hnone]
        rfl
  | succ depth ih =>
    rw [Nat.add_right_comm, below, below]
    split
    · rfl
    · split
      · rfl
      · next manifests subdirectories hlisting =>
        congr 1
        refine List.flatMap_congr fun d hd => ?_
        exact ih (hshallow.child ht hlisting d hd)

theorem below_eq_all (ht : h.tree.WellFormed) {bound : Nat} (hbound : h.tree.depth ≤ bound) :
    below h ignored (bound + 1) directory = all h ignored directory := by
  obtain ⟨more, rfl⟩ := Nat.exists_eq_add_of_le hbound
  rw [Nat.add_right_comm, below_of_shallow ht (shallow_all h directory), all]

/-- Two walks lead through the same directories if the machines list the same in each. -/
theorem alike_all (ht : h.tree.WellFormed) (hdepth : h.tree.depth ≤ h'.tree.depth)
    (hsame : ∀ d, SameListing extra (listing h d) (listing h' d)) (ignored : List String)
    (directory : Path) : List.Forall₂ (Visit.Alike extra) (all h ignored directory)
      (all h' ignored directory) := by
  rw [← below_eq_all ht hdepth, all]
  exact alike_below hsame _ directory

/-- A directory with nothing but files in it is on the way alone, with its manifests. -/
theorem all_of_files {names : List String} (ht : h.tree.WellFormed)
    (hignored : isIgnored ignored directory = false)
    (hnames : h.childNames directory = .ok names)
    (hfiles : ∀ name ∈ names, ∃ content, h.entry? (directory.child name) = .ok (.file content)) :
    ∃ manifests, all h ignored directory = [⟨directory, .ok manifests⟩] ∧
      ∀ m, m ∈ manifests ↔ ∃ name ∈ names, m = directory.child name ∧ isManifest m = true := by
  have hfile (name : String) (hname : name ∈ names) :
      h.isManifestFile (directory.child name) = .ok (isManifest (directory.child name)) := by
    obtain ⟨content, hentry⟩ := hfiles name hname
    simp [isManifestFile, isFile, test, hentry, bind, Except.bind, pure, Except.pure]
  have hreal (name : String) (hname : name ∈ names) :
      h.isRealDirectory (directory.child name) = .ok false := by
    obtain ⟨content, hentry⟩ := hfiles name hname
    simp [isRealDirectory, isDirectory, test, hentry, bind, Except.bind, pure, Except.pure]
  obtain ⟨manifests, hmanifests⟩ : ∃ chosen, h.childrenWhere h.isManifestFile directory = .ok chosen :=
    (exists_childrenWhere_iff hnames).2 fun name hname => ⟨_, hfile name hname⟩
  obtain ⟨directories, hdirectories⟩ :
      ∃ chosen, h.childrenWhere h.isRealDirectory directory = .ok chosen :=
    (exists_childrenWhere_iff hnames).2 fun name hname => ⟨_, hreal name hname⟩
  have hlisting : listing h directory = .ok (manifests, directories) := by
    simp only [listing, manifestsIn, subdirectoriesOf, hmanifests, hdirectories, bind, Except.bind]
    rfl
  obtain ⟨_, heq, hby, hothers⟩ := byName_of_listing ht hlisting
  obtain rfl := Except.ok.inj (hnames.symm.trans heq)
  obtain rfl : directories = [] := List.eq_nil_iff_forall_not_mem.2 fun d hd => by
    obtain ⟨⟨name, hname, rfl⟩, hyes⟩ := (hothers.mem_iff d).1 hd
    rw [hreal name hname] at hyes
    cases hyes
  refine ⟨manifests, ?_, fun m => ?_⟩
  · rw [all, below, hignored, if_neg Bool.false_ne_true, hlisting]
    rfl
  · rw [hby.mem_iff]
    constructor
    · rintro ⟨⟨name, hname, rfl⟩, hyes⟩
      exact ⟨name, hname, rfl, Except.ok.inj ((hfile name hname).symm.trans hyes)⟩
    · rintro ⟨name, hname, rfl, hmanifest⟩
      exact ⟨⟨name, hname, rfl⟩, (hfile name hname).trans (congrArg Except.ok hmanifest)⟩

end Visit

end PascalWorkspace
