import PascalWorkspace.Proofs.FileTree.Bound
import PascalWorkspace.Proofs.FileTree.Congruence

/-! A tree and the same with one file more. A path that leads somewhere in the first leads to the
same place in the second, and a new way leads to the new file only. -/
namespace PascalWorkspace

namespace FileTree

variable {t u : FileTree} {directory loc out : Location} {name : String}
  {content : List UInt8} {links : Nat} {steps : List String}

/-- The second tree has a file more than the first, in a directory in which there was nothing of
that name. -/
structure Grows (t u : FileTree) (directory : Location) (name : String) (content : List UInt8) :
    Prop where
  entries : ∃ before behind, t.entries = before ++ behind ∧
    u.entries = before ++ (directory ++ [name], .file content) :: behind
  parent : t.entryAt directory = some .directory
  fresh : ∀ e ∈ t.entries, ¬ directory ++ [name] <+: e.1
  size : name.utf8ByteSize ≤ maxNameBytes

/-- No link of the first tree leads to a place in the second. -/
def Unlinked (t u : FileTree) (place : Location) : Prop :=
  ∀ loc link target, t.entryAt (loc ++ [link]) = some (.link target) → u.locate loc [link] ≠ .ok place

/-- More links may be followed than there are on the way. -/
theorem Follows.mono {more : Nat} (h : Follows t links loc steps out) (hmore : links ≤ more) :
    Follows t more loc steps out := by
  induction h generalizing more with
  | done => exact .done
  | stay hdirectory _ ih => exact .stay hdirectory (ih hmore)
  | up hdirectory _ ih => exact .up hdirectory (ih hmore)
  | enter hdirectory hdot hup hsize hentry hlink _ ih =>
    exact .enter hdirectory hdot hup hsize hentry hlink (ih hmore)
  | link hdirectory hdot hup hsize hentry _ ih =>
    obtain ⟨more, rfl⟩ := Nat.exists_eq_add_of_le' (Nat.one_le_of_lt hmore)
    exact .link hdirectory hdot hup hsize hentry (ih (Nat.le_of_succ_le_succ hmore))

/-- A way to a directory leads on to a file in it. -/
theorem Follows.concat {content : List UInt8} (h : Follows t links loc steps out)
    (hdirectory : t.entryAt out = some .directory) (hdot : name ≠ ".") (hup : name ≠ "..")
    (hsize : name.utf8ByteSize ≤ maxNameBytes)
    (hentry : t.entryAt (out ++ [name]) = some (.file content)) :
    Follows t links loc (steps ++ [name]) (out ++ [name]) := by
  induction h with
  | done => exact .enter hdirectory hdot hup hsize hentry (by simp) .done
  | stay hhere _ ih => exact .stay hhere (ih hdirectory hentry)
  | up hhere _ ih => exact .up hhere (ih hdirectory hentry)
  | enter hhere hdot' hup' hsize' hentry' hlink _ ih =>
    exact .enter hhere hdot' hup' hsize' hentry' hlink (ih hdirectory hentry)
  | link hhere hdot' hup' hsize' hentry' _ ih =>
    have hrest := ih hdirectory hentry
    rw [List.append_assoc] at hrest
    exact .link hhere hdot' hup' hsize' hentry' hrest

theorem foldl_max_le {α : Type} {f : α → Nat} {xs : List α} {n bound : Nat} (hn : n ≤ bound)
    (hxs : ∀ x ∈ xs, f x ≤ bound) : xs.foldl (fun n x => max n (f x)) n ≤ bound := by
  induction xs generalizing n with
  | nil => exact hn
  | cons x xs ih =>
    obtain ⟨hx, hxs⟩ := List.forall_mem_cons.1 hxs
    exact ih (max_le hn hx) hxs

section Grows

variable (hgrows : t.Grows u directory name content)
include hgrows

theorem Grows.find?_eq_none : t.entries.find? (·.1 == directory ++ [name]) = none := by
  refine List.find?_eq_none.2 fun e he heq => hgrows.fresh e he ?_
  rw [eq_of_beq heq]

theorem Grows.entryAt_of_ne (hloc : loc ≠ directory ++ [name]) : u.entryAt loc = t.entryAt loc := by
  obtain ⟨before, behind, ht, hu⟩ := hgrows.entries
  have hne : ¬ (directory ++ [name] == loc) = true := fun heq => hloc (eq_of_beq heq).symm
  by_cases hroot : loc = []
  · rw [hroot, entryAt, entryAt]
  · rw [entryAt_of_ne_root hroot, entryAt_of_ne_root hroot, ht, hu, List.find?_append,
      List.find?_append, List.find?_cons_of_neg (by exact hne)]

theorem Grows.entryAt_file : u.entryAt (directory ++ [name]) = some (.file content) := by
  obtain ⟨before, behind, ht, hu⟩ := hgrows.entries
  have hbefore : before.find? (·.1 == directory ++ [name]) = none := by
    have hnone := hgrows.find?_eq_none
    rw [ht, List.find?_append, Option.or_eq_none_iff] at hnone
    exact hnone.1
  rw [entryAt_of_ne_root (by simp), hu, List.find?_append, hbefore, Option.none_or,
    List.find?_cons_of_pos (by simp)]
  rfl

theorem Grows.entryAt_none : t.entryAt (directory ++ [name]) = none := by
  rw [entryAt_of_ne_root (by simp), hgrows.find?_eq_none]
  rfl

theorem Grows.ne_of_entryAt {entry : Entry} (hentry : t.entryAt loc = some entry) :
    loc ≠ directory ++ [name] := by
  rintro rfl
  rw [hgrows.entryAt_none] at hentry
  cases hentry

theorem Grows.entryAt_kept {entry : Entry} (hentry : t.entryAt loc = some entry) :
    u.entryAt loc = some entry :=
  (hgrows.entryAt_of_ne (hgrows.ne_of_entryAt hentry)).trans hentry

/-- The file is no directory, and no other place becomes one. -/
theorem Grows.ne_directory (hentry : t.entryAt loc ≠ some .directory) :
    u.entryAt loc ≠ some .directory := by
  by_cases hloc : loc = directory ++ [name]
  · rw [hloc, hgrows.entryAt_file]
    simp
  · rwa [hgrows.entryAt_of_ne hloc]

theorem Grows.refusalAt (loc : Location) : u.refusalAt loc = t.refusalAt loc := by
  by_cases hloc : loc = directory ++ [name]
  · rw [hloc, FileTree.refusalAt, FileTree.refusalAt, hgrows.entryAt_file, hgrows.entryAt_none]
    simp
  · exact refusalAt_congr (hgrows.entryAt_of_ne hloc)

/-- Nothing lies below the file. -/
theorem Grows.entryAt_below (rest : List String) :
    t.entryAt (directory ++ [name] ++ rest) = none := by
  cases hentry : t.entryAt (directory ++ [name] ++ rest) with
  | none => rfl
  | some entry =>
    exact (hgrows.fresh _ (mem_entries (by simp) hentry) (List.prefix_append _ _)).elim

theorem Grows.sameLinks : t.SameLinks u := by
  intro loc target
  by_cases hloc : loc = directory ++ [name]
  · rw [hloc, hgrows.entryAt_none, hgrows.entryAt_file]
    simp
  · rw [hgrows.entryAt_of_ne hloc]

theorem Grows.linkCount : t.linkCount = u.linkCount := by
  obtain ⟨before, behind, ht, hu⟩ := hgrows.entries
  rw [FileTree.linkCount, FileTree.linkCount, ht, hu, List.countP_append, List.countP_append,
    List.countP_cons_of_neg (by simp)]

theorem Grows.length_le : t.entries.length ≤ u.entries.length := by
  obtain ⟨before, behind, ht, hu⟩ := hgrows.entries
  rw [ht, hu, List.length_append, List.length_append, List.length_cons]
  omega

theorem Grows.depth_le : t.depth ≤ u.depth := by
  obtain ⟨before, behind, ht, hu⟩ := hgrows.entries
  refine foldl_max_le (Nat.zero_le _) fun e he => ?_
  refine (le_foldl_max (fun e : Location × Entry => e.1.length) u.entries 0).2 e ?_
  rw [ht] at he
  rw [hu]
  obtain he | he := List.mem_append.1 he
  · exact List.mem_append_left _ he
  · exact List.mem_append_right _ (List.mem_cons_of_mem _ he)

theorem Grows.pathBound_le : t.pathBound ≤ u.pathBound := by
  refine Nat.mul_le_mul_left 2 ((Nat.pow_le_pow_left ?_ _).trans (Nat.pow_le_pow_right ?_ ?_))
  · exact Nat.succ_le_succ hgrows.length_le
  · exact Nat.succ_pos _
  · exact Nat.mul_le_mul_left _ (Nat.succ_le_succ hgrows.depth_le)

/-- The names in a directory are the same but for that of the file in its own. -/
theorem Grows.childNames (loc : Location) : ∃ before behind,
    t.childNames loc = before ++ behind ∧
      u.childNames loc = before ++ (if loc = directory then [name] else []) ++ behind := by
  obtain ⟨before, behind, ht, hu⟩ := hgrows.entries
  refine ⟨_, _, by rw [FileTree.childNames, ht, List.filterMap_append], ?_⟩
  rw [FileTree.childNames, hu, List.filterMap_append, List.append_assoc]
  congr 1
  by_cases hloc : directory = loc
  · subst hloc
    rw [List.filterMap_cons_some (b := name) (by simp), if_pos rfl]
    rfl
  · rw [List.filterMap_cons_none (by simp [hloc]), if_neg (Ne.symm hloc)]
    rfl

/-- A path that leads somewhere leads there still. One that did not may lead to the file, or past
it. -/
theorem Grows.follow (links : Nat) (loc : Location) (steps : List String) :
    t.follow links loc steps = u.follow links loc steps ∨
      t.follow links loc steps = .error .notFound ∧
        (u.follow links loc steps = .error .notDirectory ∨
          u.follow links loc steps = .ok (directory ++ [name])) := by
  induction links, loc, steps using follow.induct t with
  | case1 links loc => exact .inl (by rw [FileTree.follow, FileTree.follow])
  | case2 links loc next rest hdirectory =>
    rw [follow_nowhere hdirectory, follow_nowhere (hgrows.ne_directory hdirectory),
      hgrows.refusalAt]
    exact .inl rfl
  | case3 links loc rest hdirectory ih =>
    have hdirectory := not_not.1 hdirectory
    rw [follow_stay hdirectory, follow_stay (hgrows.entryAt_kept hdirectory)]
    exact ih
  | case4 links loc rest hdirectory hdot ih =>
    have hdirectory := not_not.1 hdirectory
    rw [follow_up hdirectory, follow_up (hgrows.entryAt_kept hdirectory)]
    exact ih
  | case5 links loc next rest hdirectory hdot hup hsize =>
    have hdirectory := not_not.1 hdirectory
    rw [follow_long hdirectory hdot hup hsize,
      follow_long (hgrows.entryAt_kept hdirectory) hdot hup hsize]
    exact .inl rfl
  | case6 links loc next rest hdirectory hdot hup hsize hentry =>
    have hdirectory := not_not.1 hdirectory
    have hsize := not_lt.1 hsize
    rw [follow_down hdirectory hdot hup hsize,
      follow_down (hgrows.entryAt_kept hdirectory) hdot hup hsize, hentry]
    by_cases hplace : loc ++ [next] = directory ++ [name]
    · -- The way enters the file, where it ends or cannot go on.
      refine .inr ⟨rfl, ?_⟩
      rw [hplace, hgrows.entryAt_file]
      dsimp only
      cases rest with
      | nil => exact .inr (by rw [FileTree.follow])
      | cons =>
        rw [follow_nowhere (by simp [hgrows.entryAt_file]), FileTree.refusalAt,
          hgrows.entryAt_file, if_neg (by simp)]
        exact .inl rfl
    · exact .inl (by rw [hgrows.entryAt_of_ne hplace, hentry])
  | case7 loc next rest hdirectory hdot hup hsize target hentry =>
    have hdirectory := not_not.1 hdirectory
    have hsize := not_lt.1 hsize
    rw [follow_down hdirectory hdot hup hsize,
      follow_down (hgrows.entryAt_kept hdirectory) hdot hup hsize, hentry,
      hgrows.entryAt_kept hentry]
    exact .inl rfl
  | case8 loc next rest hdirectory hdot hup hsize target hentry links ih =>
    have hdirectory := not_not.1 hdirectory
    have hsize := not_lt.1 hsize
    rw [follow_down hdirectory hdot hup hsize,
      follow_down (hgrows.entryAt_kept hdirectory) hdot hup hsize, hentry,
      hgrows.entryAt_kept hentry]
    exact ih
  | case9 links loc next rest hdirectory hdot hup hsize entry hlink hentry ih =>
    have hdirectory := not_not.1 hdirectory
    have hsize := not_lt.1 hsize
    rw [follow_down hdirectory hdot hup hsize,
      follow_down (hgrows.entryAt_kept hdirectory) hdot hup hsize, hentry,
      hgrows.entryAt_kept hentry]
    cases entry with
    | link target => exact (hlink target rfl).elim
    | _ => exact ih

/-- Without the file no way leads to its place. -/
theorem Grows.ne_of_follows (h : Follows t links loc steps out) (hloc : loc ≠ directory ++ [name]) :
    out ≠ directory ++ [name] := by
  induction h with
  | done => exact hloc
  | stay _ _ ih => exact ih hloc
  | @up links loc out rest hdirectory _ ih =>
    refine ih fun hup => ?_
    obtain rfl | ⟨above, last, rfl⟩ := loc.eq_nil_or_concat'
    · simp at hup
    · rw [List.dropLast_concat] at hup
      rw [hup, hgrows.entryAt_below] at hdirectory
      cases hdirectory
  | enter _ _ _ _ hentry _ _ ih => exact ih (hgrows.ne_of_entryAt hentry)
  | @link links loc out link target rest hdirectory _ _ _ _ _ ih =>
    refine ih ?_
    unfold origin
    split
    · exact fun hnil => absurd hnil.symm (by simp)
    · exact hgrows.ne_of_entryAt hdirectory

end Grows

/-- A way that leads to the file ends with its name, in its directory. -/
theorem Grows.exists_of_follows (hgrows : t.Grows u directory name content)
    (hunlinked : t.Unlinked u (directory ++ [name]))
    (h : Follows u links loc steps (directory ++ [name]))
    (hlinks : links ≤ maxLinks) (hloc : loc ≠ directory ++ [name]) :
    ∃ init, steps = init ++ [name] ∧ Follows u links loc init directory := by
  have hfile : u.entryAt (directory ++ [name]) ≠ some .directory := by
    rw [hgrows.entryAt_file]
    simp
  obtain rfl | ⟨init, last, rfl⟩ := steps.eq_nil_or_concat'
  · cases h
    exact absurd rfl hloc
  · obtain ⟨fewer, mid, hfewer, hfirst, hlast⟩ := h.split
    cases hlast with
    | stay hdirectory hend =>
      cases hend
      exact absurd hdirectory hfile
    | up hdirectory hend =>
      -- Nothing lies below the file from which a way could go up to it.
      generalize hplace : mid.dropLast = place at hend
      cases hend
      obtain rfl | ⟨above, below, rfl⟩ := mid.eq_nil_or_concat'
      · simp at hplace
      · rw [List.dropLast_concat] at hplace
        have hbelow := hgrows.entryAt_below [below]
        rw [← hgrows.entryAt_of_ne (by simp)] at hbelow
        rw [hplace, hbelow] at hdirectory
        cases hdirectory
    | enter hdirectory _ _ _ _ _ hend =>
      generalize hplace : mid ++ [last] = place at hend
      cases hend
      obtain ⟨rfl, hsame⟩ := List.append_inj' hplace rfl
      obtain rfl := List.singleton_inj.1 hsame
      exact ⟨init, rfl, hfirst⟩
    | @link links _ _ _ target _ hdirectory hdot hup hsize hentry hend =>
      have hway : Follows u (links + 1) mid [last] (directory ++ [name]) :=
        .link hdirectory hdot hup hsize hentry hend
      have hlocate : u.locate mid [last] = .ok (directory ++ [name]) :=
        follow_eq_ok_iff.2 (hway.mono (hfewer.trans hlinks))
      exact absurd hlocate (hunlinked _ _ _ ((hgrows.sameLinks _ _).2 hentry))

end FileTree

end PascalWorkspace
