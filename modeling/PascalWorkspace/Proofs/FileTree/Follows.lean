import PascalWorkspace.Proofs.FileTree.Clean

/-! How the operating system comes to a place: what each name on the way does, and how the ways of
two parts of a path fit together. -/
namespace PascalWorkspace

namespace FileTree

variable {t : FileTree} {links fewer n : Nat} {loc mid out : Location} {name target : String}
  {steps rest : List String} {entry : Entry}

/-! ### One name on the way -/

theorem follow_nowhere (hdirectory : t.entryAt loc ≠ some .directory) :
    t.follow links loc (name :: rest) = .error (t.refusalAt loc) := by
  rw [follow, if_pos hdirectory]

theorem follow_stay (hdirectory : t.entryAt loc = some .directory) :
    t.follow links loc ("." :: rest) = t.follow links loc rest := by
  rw [follow, if_neg (not_not.2 hdirectory), if_pos rfl]

theorem follow_up (hdirectory : t.entryAt loc = some .directory) :
    t.follow links loc (".." :: rest) = t.follow links loc.dropLast rest := by
  rw [follow, if_neg (not_not.2 hdirectory), if_neg (by decide), if_pos rfl]

theorem follow_long (hdirectory : t.entryAt loc = some .directory) (hdot : name ≠ ".")
    (hup : name ≠ "..") (hsize : maxNameBytes < name.utf8ByteSize) :
    t.follow links loc (name :: rest) = .error .nameTooLong := by
  rw [follow, if_neg (not_not.2 hdirectory), if_neg hdot, if_neg hup, if_pos hsize]

/-- What becomes of a way at a name that is not too long, no dots, and looked for in a directory. -/
theorem follow_down (hdirectory : t.entryAt loc = some .directory) (hdot : name ≠ ".")
    (hup : name ≠ "..") (hsize : name.utf8ByteSize ≤ maxNameBytes) :
    t.follow links loc (name :: rest) =
      match t.entryAt (loc ++ [name]), links with
      | none, _ => .error .notFound
      | some (.link _), 0 => .error .tooManyLinks
      | some (.link target), links + 1 =>
        t.follow links (origin loc target) (targetSteps target ++ rest)
      | some _, links => t.follow links (loc ++ [name]) rest := by
  rw [follow, if_neg (not_not.2 hdirectory), if_neg hdot, if_neg hup, if_neg (not_lt.2 hsize)]
  cases t.entryAt (loc ++ [name]) with
  | none => rfl
  | some entry =>
    cases entry with
    | link target => cases links <;> rfl
    | _ => rfl

theorem follow_missing (hdirectory : t.entryAt loc = some .directory) (hdot : name ≠ ".")
    (hup : name ≠ "..") (hsize : name.utf8ByteSize ≤ maxNameBytes)
    (hentry : t.entryAt (loc ++ [name]) = none) :
    t.follow links loc (name :: rest) = .error .notFound := by
  rw [follow_down hdirectory hdot hup hsize, hentry]

/-- The steps lead from one place to another, with at most so many links on the way. -/
inductive Follows (t : FileTree) : Nat → Location → List String → Location → Prop where
  | done {links : Nat} {loc : Location} : Follows t links loc [] loc
  | stay {links : Nat} {loc out : Location} {rest : List String}
      (hdirectory : t.entryAt loc = some .directory) (h : Follows t links loc rest out) :
      Follows t links loc ("." :: rest) out
  | up {links : Nat} {loc out : Location} {rest : List String}
      (hdirectory : t.entryAt loc = some .directory) (h : Follows t links loc.dropLast rest out) :
      Follows t links loc (".." :: rest) out
  | enter {links : Nat} {loc out : Location} {name : String} {rest : List String} {entry : Entry}
      (hdirectory : t.entryAt loc = some .directory) (hdot : name ≠ ".") (hup : name ≠ "..")
      (hsize : name.utf8ByteSize ≤ maxNameBytes) (hentry : t.entryAt (loc ++ [name]) = some entry)
      (hlink : ∀ target, entry ≠ .link target) (h : Follows t links (loc ++ [name]) rest out) :
      Follows t links loc (name :: rest) out
  | link {links : Nat} {loc out : Location} {name target : String} {rest : List String}
      (hdirectory : t.entryAt loc = some .directory) (hdot : name ≠ ".") (hup : name ≠ "..")
      (hsize : name.utf8ByteSize ≤ maxNameBytes)
      (hentry : t.entryAt (loc ++ [name]) = some (.link target))
      (h : Follows t links (origin loc target) (targetSteps target ++ rest) out) :
      Follows t (links + 1) loc (name :: rest) out

theorem follow_eq_ok_iff : t.follow links loc steps = .ok out ↔ Follows t links loc steps out := by
  constructor
  · intro h
    induction links, loc, steps using follow.induct t with
    | case1 links loc =>
      rw [follow] at h
      obtain rfl := Except.ok.inj h
      exact .done
    | case2 links loc name rest hdirectory =>
      rw [follow_nowhere hdirectory] at h
      cases h
    | case3 links loc rest hdirectory ih =>
      have hdirectory := not_not.1 hdirectory
      rw [follow_stay hdirectory] at h
      exact .stay hdirectory (ih h)
    | case4 links loc rest hdirectory hdot ih =>
      have hdirectory := not_not.1 hdirectory
      rw [follow_up hdirectory] at h
      exact .up hdirectory (ih h)
    | case5 links loc name rest hdirectory hdot hup hsize =>
      rw [follow_long (not_not.1 hdirectory) hdot hup hsize] at h
      cases h
    | case6 links loc name rest hdirectory hdot hup hsize hentry =>
      rw [follow_down (not_not.1 hdirectory) hdot hup (not_lt.1 hsize), hentry] at h
      cases h
    | case7 loc name rest hdirectory hdot hup hsize target hentry =>
      rw [follow_down (not_not.1 hdirectory) hdot hup (not_lt.1 hsize), hentry] at h
      cases h
    | case8 loc name rest hdirectory hdot hup hsize target hentry links ih =>
      have hdirectory := not_not.1 hdirectory
      have hsize := not_lt.1 hsize
      rw [follow_down hdirectory hdot hup hsize, hentry] at h
      exact .link hdirectory hdot hup hsize hentry (ih h)
    | case9 links loc name rest hdirectory hdot hup hsize entry hlink hentry ih =>
      have hdirectory := not_not.1 hdirectory
      have hsize := not_lt.1 hsize
      rw [follow_down hdirectory hdot hup hsize, hentry] at h
      cases entry with
      | link target => exact (hlink target rfl).elim
      | _ => exact .enter hdirectory hdot hup hsize hentry (by simp) (ih h)
  · intro h
    induction h with
    | done => rw [follow]
    | stay hdirectory _ ih => rw [follow_stay hdirectory, ih]
    | up hdirectory _ ih => rw [follow_up hdirectory, ih]
    | @enter links loc out name rest entry hdirectory hdot hup hsize hentry hlink _ ih =>
      rw [follow_down hdirectory hdot hup hsize, hentry]
      cases entry with
      | link target => exact absurd rfl (hlink target)
      | _ => exact ih
    | link hdirectory hdot hup hsize hentry _ ih =>
      rw [follow_down hdirectory hdot hup hsize, hentry]
      exact ih

/-- A way falls into that of its first steps and that of the others. -/
theorem Follows.split (h : Follows t links loc (steps ++ rest) out) :
    ∃ fewer mid, fewer ≤ links ∧ Follows t links loc steps mid ∧ Follows t fewer mid rest out := by
  generalize hall : steps ++ rest = all at h
  induction h generalizing steps with
  | done =>
    obtain ⟨rfl, rfl⟩ := List.append_eq_nil_iff.1 hall
    exact ⟨_, _, le_rfl, .done, .done⟩
  | stay hdirectory h ih =>
    obtain ⟨rfl, rfl⟩ | ⟨steps, rfl, rfl⟩ := List.append_eq_cons_iff.1 hall
    · exact ⟨_, _, le_rfl, .done, .stay hdirectory h⟩
    · obtain ⟨fewer, mid, hle, hfirst, hrest⟩ := ih rfl
      exact ⟨fewer, mid, hle, .stay hdirectory hfirst, hrest⟩
  | up hdirectory h ih =>
    obtain ⟨rfl, rfl⟩ | ⟨steps, rfl, rfl⟩ := List.append_eq_cons_iff.1 hall
    · exact ⟨_, _, le_rfl, .done, .up hdirectory h⟩
    · obtain ⟨fewer, mid, hle, hfirst, hrest⟩ := ih rfl
      exact ⟨fewer, mid, hle, .up hdirectory hfirst, hrest⟩
  | enter hdirectory hdot hup hsize hentry hlink h ih =>
    obtain ⟨rfl, rfl⟩ | ⟨steps, rfl, rfl⟩ := List.append_eq_cons_iff.1 hall
    · exact ⟨_, _, le_rfl, .done, .enter hdirectory hdot hup hsize hentry hlink h⟩
    · obtain ⟨fewer, mid, hle, hfirst, hrest⟩ := ih rfl
      exact ⟨fewer, mid, hle, .enter hdirectory hdot hup hsize hentry hlink hfirst, hrest⟩
  | link hdirectory hdot hup hsize hentry h ih =>
    obtain ⟨rfl, rfl⟩ | ⟨steps, rfl, rfl⟩ := List.append_eq_cons_iff.1 hall
    · exact ⟨_, _, le_rfl, .done, .link hdirectory hdot hup hsize hentry h⟩
    · obtain ⟨fewer, mid, hle, hfirst, hrest⟩ := ih (List.append_assoc _ _ _)
      exact ⟨fewer, mid, hle.trans (Nat.le_succ _),
        .link hdirectory hdot hup hsize hentry hfirst, hrest⟩

/-- The place that the steps lead to is the only one. -/
theorem Follows.unique {other : Location} (h : Follows t links loc steps out)
    (h' : Follows t links loc steps other) : out = other :=
  Except.ok.inj ((follow_eq_ok_iff.2 h).symm.trans (follow_eq_ok_iff.2 h'))

theorem le_foldl_max {α : Type} (f : α → Nat) (xs : List α) (n : Nat) :
    n ≤ xs.foldl (fun n x => max n (f x)) n ∧
      ∀ x ∈ xs, f x ≤ xs.foldl (fun n x => max n (f x)) n := by
  induction xs generalizing n with
  | nil => exact ⟨le_rfl, fun _ hx => nomatch hx⟩
  | cons x xs ih =>
    obtain ⟨hbegin, hall⟩ := ih (max n (f x))
    exact ⟨(le_max_left _ _).trans hbegin,
      List.forall_mem_cons.2 ⟨(le_max_right _ _).trans hbegin, hall⟩⟩

/-- No place where something is lies deeper than the tree. -/
theorem length_le_depth (h : t.entryAt loc = some entry) : loc.length ≤ t.depth := by
  by_cases hloc : loc = []
  · simp [hloc]
  · exact (le_foldl_max (fun e : Location × Entry => e.1.length) t.entries 0).2 _
      (mem_entries hloc h)

/-! ### Where a way leads -/

theorem Leads.split (h : Leads t n loc (steps ++ rest) out) :
    ∃ a b mid, Leads t a loc steps mid ∧ Leads t b mid rest out := by
  generalize hall : steps ++ rest = all at h
  induction h generalizing steps with
  | done =>
    obtain ⟨rfl, rfl⟩ := List.append_eq_nil_iff.1 hall
    exact ⟨_, _, _, .done, .done⟩
  | stay hname h ih =>
    obtain ⟨rfl, rfl⟩ | ⟨steps, rfl, rfl⟩ := List.append_eq_cons_iff.1 hall
    · exact ⟨_, _, _, .done, .stay hname h⟩
    · obtain ⟨a, b, mid, hfirst, hrest⟩ := ih rfl
      exact ⟨a, b, mid, .stay hname hfirst, hrest⟩
  | up h ih =>
    obtain ⟨rfl, rfl⟩ | ⟨steps, rfl, rfl⟩ := List.append_eq_cons_iff.1 hall
    · exact ⟨_, _, _, .done, .up h⟩
    · obtain ⟨a, b, mid, hfirst, hrest⟩ := ih rfl
      exact ⟨a, b, mid, .up hfirst, hrest⟩
  | down hname hentry h ih =>
    obtain ⟨rfl, rfl⟩ | ⟨steps, rfl, rfl⟩ := List.append_eq_cons_iff.1 hall
    · exact ⟨_, _, _, .done, .down hname hentry h⟩
    · obtain ⟨a, b, mid, hfirst, hrest⟩ := ih rfl
      exact ⟨a, b, mid, .down hname hentry hfirst, hrest⟩
  | follow hname hentry hlink h _ ih =>
    obtain ⟨rfl, rfl⟩ | ⟨steps, rfl, rfl⟩ := List.append_eq_cons_iff.1 hall
    · exact ⟨_, _, _, .done, .follow hname hentry hlink h⟩
    · obtain ⟨a, b, mid, hfirst, hrest⟩ := ih rfl
      exact ⟨_, b, mid, .follow hname hentry hlink hfirst, hrest⟩

/-- Empty names between slashes do not matter. -/
theorem Leads.of_filter (h : Leads t n loc (steps.filter (· ≠ "")) out) :
    Leads t n loc steps out := by
  induction steps generalizing n loc with
  | nil => exact h
  | cons name rest ih =>
    by_cases hname : name = ""
    · rw [List.filter_cons_of_neg (by simpa using hname)] at h
      exact .stay (.inl hname) (ih h)
    · rw [List.filter_cons_of_pos (by simpa using hname)] at h
      cases h with
      | stay hstay h => exact .stay hstay (ih h)
      | up h => exact .up (ih h)
      | down hdown hentry h => exact .down hdown hentry (ih h)
      | follow hdown hentry hlink h => exact .follow hdown hentry hlink (ih h)

/-- The target of a link leads where its steps lead, also if they end in a dot for a slash. -/
theorem Leads.of_targetSteps (h : Leads t n loc (targetSteps target) out) :
    ∃ m, Leads t m loc (Path.pieces target) out := by
  unfold targetSteps at h
  dsimp only at h
  split at h
  · obtain ⟨a, b, mid, hfirst, hrest⟩ := h.split
    obtain ⟨-, rfl⟩ := hrest.unique (.stay (.inr rfl) .done)
    exact ⟨a, hfirst.of_filter⟩
  · exact ⟨n, h.of_filter⟩

/-- Where the operating system comes to, the names lead. -/
theorem Follows.leads (h : Follows t links loc steps out) (hsteps : "" ∉ steps) :
    ∃ n, Leads t n loc steps out := by
  induction h with
  | done => exact ⟨0, .done⟩
  | stay _ _ ih =>
    obtain ⟨n, h⟩ := ih (List.not_mem_of_not_mem_cons hsteps)
    exact ⟨n, .stay (.inr rfl) h⟩
  | up _ _ ih =>
    obtain ⟨n, h⟩ := ih (List.not_mem_of_not_mem_cons hsteps)
    exact ⟨n, .up h⟩
  | enter _ hdot hup _ hentry hlink _ ih =>
    obtain ⟨n, h⟩ := ih (List.not_mem_of_not_mem_cons hsteps)
    have hname := (List.ne_of_not_mem_cons hsteps).symm
    refine ⟨n, .down ⟨hname, hdot, hup⟩ (fun target htarget => ?_) h⟩
    exact hlink target (Option.some.inj (hentry.symm.trans htarget))
  | @link links loc out name target rest _ hdot hup _ hentry _ ih =>
    have hname := (List.ne_of_not_mem_cons hsteps).symm
    have htarget : "" ∉ targetSteps target ++ rest := by
      have hrest := List.not_mem_of_not_mem_cons hsteps
      unfold targetSteps
      split <;> simp [hrest]
    obtain ⟨n, h⟩ := ih htarget
    obtain ⟨a, b, mid, hfirst, hlast⟩ := h.split
    obtain ⟨m, hlink⟩ := hfirst.of_targetSteps
    exact ⟨_, .follow ⟨hname, hdot, hup⟩ hentry hlink hlast⟩

/-- That a file is a directory is not found out on a way. -/
theorem follow_ne_isDirectory (t : FileTree) (links : Nat) (loc : Location) (steps : List String) :
    t.follow links loc steps ≠ .error .isDirectory := by
  fun_induction follow t links loc steps with
  | case2 links loc name rest hdirectory =>
    unfold refusalAt
    split <;> nofun
  | _ => first | assumption | nofun

end FileTree

end PascalWorkspace
