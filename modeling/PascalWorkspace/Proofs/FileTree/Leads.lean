import Mathlib.Data.Finset.Card
import PascalWorkspace.FileTree.Canonical
import PascalWorkspace.Proofs.Path.Text

/-! Where the names of a path lead when each link is followed to its end before the names behind it.
If the names lead anywhere then the search for the canonical spelling, which keeps track of the
links that it has met, ends there. -/
namespace PascalWorkspace

namespace FileTree

variable {t : FileTree} {n m fuel count : Nat} {loc mid out out' link : Location} {name target : String}
  {steps rest : List String} {seen : Visited} {place reached : Place} {tasks : List Task}

/-- A name that neither stays at a place nor goes up from it. -/
structure GoesDown (name : String) : Prop where
  nonempty : name ≠ ""
  notDot : name ≠ "."
  notUp : name ≠ ".."

theorem goesDown_of_not_stay (hstay : ¬ (decide (name = "") || decide (name = ".")) = true)
    (hup : name ≠ "..") : GoesDown name := by
  have hboth : name ≠ "" ∧ name ≠ "." := by simpa using hstay
  exact ⟨hboth.1, hboth.2, hup⟩

/-- Where the target of a link is followed from, for a link in some place. -/
def origin (loc : Location) (target : String) : Location := if isRooted target then [] else loc

/-- The names lead from one place to another. The links that are followed on the way are counted,
with those in the targets of links. -/
inductive Leads (t : FileTree) : Nat → Location → List String → Location → Prop where
  | done {loc : Location} : Leads t 0 loc [] loc
  | stay {n : Nat} {loc out : Location} {name : String} {rest : List String}
      (hname : name = "" ∨ name = ".") (h : Leads t n loc rest out) :
      Leads t n loc (name :: rest) out
  | up {n : Nat} {loc out : Location} {rest : List String} (h : Leads t n loc.dropLast rest out) :
      Leads t n loc (".." :: rest) out
  | down {n : Nat} {loc out : Location} {name : String} {rest : List String} (hname : GoesDown name)
      (hentry : ∀ target, t.entryAt (loc ++ [name]) ≠ some (.link target))
      (h : Leads t n (loc ++ [name]) rest out) : Leads t n loc (name :: rest) out
  | follow {n m : Nat} {loc mid out : Location} {name target : String} {rest : List String}
      (hname : GoesDown name) (hentry : t.entryAt (loc ++ [name]) = some (.link target))
      (hlink : Leads t n (origin loc target) (Path.pieces target) mid)
      (h : Leads t m mid rest out) : Leads t (n + m + 1) loc (name :: rest) out

/-- A link can be followed to its end, and leads there. -/
def Ends (t : FileTree) (n : Nat) (link out : Location) : Prop :=
  ∃ target, t.entryAt link = some (.link target) ∧
    Leads t n (origin link.dropLast target) (Path.pieces target) out

/-- No link leads back to itself: each can be followed to its end. -/
def LoopFree (t : FileTree) : Prop :=
  ∀ link target, t.entryAt link = some (.link target) → ∃ n out, t.Ends n link out

theorem Leads.unique (h : Leads t n loc steps out) (h' : Leads t m loc steps out') :
    n = m ∧ out = out' := by
  induction h generalizing m out' with
  | done =>
    cases h'
    exact ⟨rfl, rfl⟩
  | stay hname h ih =>
    cases h' with
    | stay _ h' => exact ih h'
    | up h' => simp at hname
    | down hname' => exact (hname.elim hname'.nonempty hname'.notDot).elim
    | follow hname' => exact (hname.elim hname'.nonempty hname'.notDot).elim
  | up h ih =>
    cases h' with
    | stay hname => simp at hname
    | up h' => exact ih h'
    | down hname => exact absurd rfl hname.notUp
    | follow hname => exact absurd rfl hname.notUp
  | down hname hentry h ih =>
    cases h' with
    | stay hname' => exact (hname'.elim hname.nonempty hname.notDot).elim
    | up => exact absurd rfl hname.notUp
    | down _ _ h' => exact ih h'
    | follow _ hentry' => exact absurd hentry' (hentry _)
  | follow hname hentry hlink h ihLink ih =>
    cases h' with
    | stay hname' => exact (hname'.elim hname.nonempty hname.notDot).elim
    | up => exact absurd rfl hname.notUp
    | down _ hentry' => exact absurd hentry (hentry' _)
    | follow _ hentry' hlink' h' =>
      obtain rfl := Entry.link.inj (Option.some.inj (hentry.symm.trans hentry'))
      obtain ⟨rfl, rfl⟩ := ihLink hlink'
      obtain ⟨rfl, rfl⟩ := ih h'
      exact ⟨rfl, rfl⟩

theorem Ends.unique (h : t.Ends n link out) (h' : t.Ends m link out') : n = m ∧ out = out' := by
  obtain ⟨target, htarget, hleads⟩ := h
  obtain ⟨target', htarget', hleads'⟩ := h'
  obtain rfl := Entry.link.inj (Option.some.inj (htarget.symm.trans htarget'))
  exact hleads.unique hleads'

theorem Leads.append (h : Leads t n loc steps mid) (hrest : Leads t m mid rest out) :
    Leads t (n + m) loc (steps ++ rest) out := by
  induction h with
  | done => rwa [Nat.zero_add]
  | stay hname h ih => exact .stay hname (ih hrest)
  | up h ih => exact .up (ih hrest)
  | down hname hentry h ih => exact .down hname hentry (ih hrest)
  | @follow n k loc mid' out name target rest' hname hentry hlink h ihLink ih =>
    have hcount : n + k + 1 + m = n + (k + m) + 1 := by omega
    rw [hcount]
    exact .follow hname hentry hlink (ih hrest)

/-- Without loops all names lead somewhere. -/
theorem LoopFree.exists_leads (ht : t.LoopFree) (loc : Location) (steps : List String) :
    ∃ n out, Leads t n loc steps out := by
  induction steps generalizing loc with
  | nil => exact ⟨0, loc, .done⟩
  | cons name rest ih =>
    by_cases hstay : name = "" ∨ name = "."
    · obtain ⟨n, out, h⟩ := ih loc
      exact ⟨n, out, .stay hstay h⟩
    · by_cases hup : name = ".."
      · obtain ⟨n, out, h⟩ := ih loc.dropLast
        exact ⟨n, out, hup ▸ .up h⟩
      · have hname : GoesDown name := ⟨fun h => hstay (.inl h), fun h => hstay (.inr h), hup⟩
        by_cases hlink : ∃ target, t.entryAt (loc ++ [name]) = some (.link target)
        · obtain ⟨target, hentry⟩ := hlink
          obtain ⟨n, mid, target', hentry', hends⟩ := ht _ target hentry
          obtain rfl := Entry.link.inj (Option.some.inj (hentry.symm.trans hentry'))
          rw [List.dropLast_concat] at hends
          obtain ⟨m, out, h⟩ := ih mid
          exact ⟨n + m + 1, out, .follow hname hentry hends h⟩
        · obtain ⟨n, out, h⟩ := ih (loc ++ [name])
          exact ⟨n, out, .down hname (fun target hentry => hlink ⟨target, hentry⟩) h⟩

/-! ### The links that a search has not met -/

theorem Visited.find_cons {other : Place} {result : Option Place} :
    Visited.find ((place, result) :: seen) other =
      if place = other then some result else seen.find other := by
  unfold Visited.find
  by_cases h : place = other <;> simp [h]

/-- No more names of the working directory are left in front than there are. -/
def Place.Within (count : Nat) (place : Place) : Prop := ∀ kept ∈ place.kept, kept ≤ count

theorem Place.Within.up (h : place.Within count) : place.up.Within count := by
  intro kept hkept
  obtain ⟨before, hbefore, rfl⟩ := Option.mem_map.1 hkept
  exact (Nat.min_le_left _ _).trans (h before hbefore)

/-- The places at which links can be met, from the root and with each number of names of the working
directory in front. -/
def linkPlaces (t : FileTree) (count : Nat) : List Place :=
  (t.entries.filter fun e => match e.2 with | .link _ => true | _ => false).flatMap fun e =>
    ⟨none, e.1⟩ :: (List.range (count + 1)).map fun kept => ⟨some kept, e.1⟩

theorem length_linkPlaces (t : FileTree) (count : Nat) :
    (t.linkPlaces count).length = (count + 2) * t.linkCount := by
  simp only [linkPlaces, List.length_flatMap, List.length_cons, List.length_map, List.length_range,
    List.map_const', List.sum_replicate_nat, linkCount, List.countP_eq_length_filter]
  exact Nat.mul_comm _ _

theorem mem_entries {entry : Entry} (hloc : loc ≠ []) (h : t.entryAt loc = some entry) :
    (loc, entry) ∈ t.entries := by
  have hfind : (t.entries.find? (·.1 == loc)).map (·.2) = some entry := by
    cases loc with
    | nil => exact absurd rfl hloc
    | cons => exact h
  obtain ⟨e, he, rfl⟩ := Option.map_eq_some_iff.1 hfind
  obtain rfl : e.1 = loc := by simpa using List.find?_some he
  exact List.mem_of_find?_eq_some he

/-- The root is no link. -/
theorem ne_root_of_link (h : t.entryAt loc = some (.link target)) : loc ≠ [] := by
  rintro rfl
  cases h

theorem ne_root_of_file {content : List UInt8} (h : t.entryAt loc = some (.file content)) :
    loc ≠ [] := by
  rintro rfl
  cases h

theorem mem_linkPlaces (h : t.entryAt place.location = some (.link target))
    (hwithin : place.Within count) : place ∈ t.linkPlaces count := by
  obtain ⟨kept, loc⟩ := place
  have hmem := mem_entries (ne_root_of_link h) h
  refine List.mem_flatMap.2 ⟨(loc, .link target), List.mem_filter.2 ⟨hmem, rfl⟩, ?_⟩
  cases kept with
  | none => exact List.mem_cons_self
  | some kept =>
    have hkept : kept < count + 1 := Nat.lt_succ_of_le (hwithin kept rfl)
    exact List.mem_cons_of_mem _ (List.mem_map.2 ⟨kept, List.mem_range.2 hkept, rfl⟩)

def unseen (t : FileTree) (count : Nat) (seen : Visited) : Finset Place :=
  (t.linkPlaces count).toFinset.filter fun place => seen.find place = none

theorem unseen_cons {result : Option Place} :
    t.unseen count ((place, result) :: seen) = (t.unseen count seen).erase place := by
  ext other
  simp only [unseen, Finset.mem_filter, Finset.mem_erase, Visited.find_cons]
  by_cases h : place = other
  · simp [h]
  · simp [h, Ne.symm h]

theorem mem_unseen (h : t.entryAt place.location = some (.link target))
    (hwithin : place.Within count) (hseen : seen.find place = none) :
    place ∈ t.unseen count seen :=
  Finset.mem_filter.2 ⟨List.mem_toFinset.2 (mem_linkPlaces h hwithin), hseen⟩

/-! ### The search ends where the names lead -/

/-- What a search has met is as it should be: links that are done lead where they end, and links
that are still followed take more steps than are left. -/
structure Tracked (t : FileTree) (count n : Nat) (seen : Visited) : Prop where
  ended : ∀ place reached, seen.find place = some (some reached) →
    reached.Within count ∧ ∃ m, t.Ends m place.location reached.location
  busy : ∀ place, seen.find place = some none → ∃ m out, t.Ends m place.location out ∧ n ≤ m

theorem Tracked.mono (h : Tracked t count m seen) (hle : n ≤ m) : Tracked t count n seen := by
  refine ⟨h.ended, fun place hplace => ?_⟩
  obtain ⟨k, out, hends, hk⟩ := h.busy place hplace
  exact ⟨k, out, hends, hle.trans hk⟩

theorem Tracked.begin (h : Tracked t count n seen) (hends : t.Ends n place.location out) :
    Tracked t count n ((place, none) :: seen) := by
  constructor
  · intro other reached hother
    rw [Visited.find_cons] at hother
    split at hother
    · cases hother
    · exact h.ended other reached hother
  · intro other hother
    rw [Visited.find_cons] at hother
    split at hother
    · next heq => exact ⟨n, out, heq ▸ hends, le_rfl⟩
    · exact h.busy other hother

/-- Once the target of a link has been followed, the links still followed are those from before. -/
theorem Tracked.finish {inside : Visited} (h : Tracked t count n seen)
    (hinside : Tracked t count 0 inside) (hwithin : reached.Within count)
    (hends : t.Ends m place.location reached.location)
    (hbusy : ∀ other, inside.find other = some none →
      Visited.find ((place, none) :: seen) other = some none) :
    Tracked t count n ((place, some reached) :: inside) ∧
      ∀ other, Visited.find ((place, some reached) :: inside) other = some none →
        seen.find other = some none := by
  have hold : ∀ other, Visited.find ((place, some reached) :: inside) other = some none →
      seen.find other = some none := by
    intro other hother
    rw [Visited.find_cons] at hother
    split at hother
    · cases hother
    · next hne =>
      have hbefore := hbusy other hother
      rwa [Visited.find_cons, if_neg hne] at hbefore
  refine ⟨⟨?_, fun other hother => h.busy other (hold other hother)⟩, hold⟩
  intro other result hother
  rw [Visited.find_cons] at hother
  split at hother
  · next heq =>
    obtain rfl := Option.some.inj (Option.some.inj hother)
    exact ⟨hwithin, m, heq ▸ hends⟩
  · exact hinside.ended other result hother

theorem trace_stay (hname : name = "" ∨ name = ".") :
    t.trace fuel seen place (.step name :: tasks) = t.trace fuel seen place tasks := by
  rw [trace, if_pos (by simpa using hname)]

theorem trace_up : t.trace fuel seen place (.step ".." :: tasks) =
    t.trace fuel seen place.up tasks := by
  rw [trace, if_neg (by decide), if_pos rfl]

theorem trace_down (hname : GoesDown name)
    (hentry : ∀ target, t.entryAt (place.location ++ [name]) ≠ some (.link target)) :
    t.trace fuel seen place (.step name :: tasks) =
      t.trace fuel seen { place with location := place.location ++ [name] } tasks := by
  rw [trace, if_neg (by simp [hname.nonempty, hname.notDot]), if_neg hname.notUp]
  dsimp only
  split
  · next heq => exact absurd heq (hentry _)
  · rfl

theorem trace_met (hname : GoesDown name)
    (hentry : t.entryAt (place.location ++ [name]) = some (.link target))
    (hseen : seen.find { place with location := place.location ++ [name] } = some (some reached)) :
    t.trace fuel seen place (.step name :: tasks) = t.trace fuel seen reached tasks := by
  rw [trace, if_neg (by simp [hname.nonempty, hname.notDot]), if_neg hname.notUp]
  simp only [hentry]
  rw [hseen]

/-- A link that is met while it is still followed ends the search. -/
theorem trace_busy (hname : GoesDown name)
    (hentry : t.entryAt (place.location ++ [name]) = some (.link target))
    (hseen : seen.find { place with location := place.location ++ [name] } = some none) :
    t.trace fuel seen place (.step name :: tasks) =
      stuckPath { place with location := place.location ++ [name] } tasks := by
  rw [trace, if_neg (by simp [hname.nonempty, hname.notDot]), if_neg hname.notUp]
  simp only [hentry]
  rw [hseen]

theorem trace_spent (hname : GoesDown name)
    (hentry : t.entryAt (place.location ++ [name]) = some (.link target))
    (hseen : seen.find { place with location := place.location ++ [name] } = none) :
    t.trace 0 seen place (.step name :: tasks) =
      stuckPath { place with location := place.location ++ [name] } tasks := by
  rw [trace, if_neg (by simp [hname.nonempty, hname.notDot]), if_neg hname.notUp]
  simp only [hentry]
  rw [hseen]

/-- The place that the target of a link is followed from, for a link in some place. -/
def Place.origin (place : Place) (target : String) : Place :=
  if isRooted target then ⟨none, []⟩ else place

theorem Place.location_origin (place : Place) (target : String) :
    (place.origin target).location = FileTree.origin place.location target := by
  unfold Place.origin FileTree.origin
  split <;> rfl

theorem Place.Within.origin (h : place.Within count) (target : String) :
    (place.origin target).Within count := by
  unfold Place.origin
  split
  · exact fun kept hkept => nomatch hkept
  · exact h

theorem trace_new (hname : GoesDown name)
    (hentry : t.entryAt (place.location ++ [name]) = some (.link target))
    (hseen : seen.find { place with location := place.location ++ [name] } = none) :
    t.trace (fuel + 1) seen place (.step name :: tasks) =
      t.trace fuel (({ place with location := place.location ++ [name] }, none) :: seen)
        (place.origin target) ((Path.pieces target).map .step ++
          .linkDone { place with location := place.location ++ [name] } :: tasks) := by
  rw [trace, if_neg (by simp [hname.nonempty, hname.notDot]), if_neg hname.notUp]
  simp only [hentry]
  rw [hseen]
  rfl

/-- A search is at a location, where it may follow each link that it has not met. What it has met is
as it should be, with so many links ahead. -/
structure Ready (t : FileTree) (count n fuel : Nat) (seen : Visited) (place : Place)
    (loc : Location) : Prop where
  location : place.location = loc
  within : place.Within count
  tracked : Tracked t count n seen
  fuel : (t.unseen count seen).card ≤ fuel

theorem Ready.next (h : Ready t count n fuel seen place loc) (hlocation : reached.location = out)
    (hwithin : reached.Within count) (hle : m ≤ n) : Ready t count m fuel seen reached out :=
  ⟨hlocation, hwithin, h.tracked.mono hle, h.fuel⟩

/-- A link that has not been met may be followed. -/
theorem Ready.begin (h : Ready t count n fuel seen place loc)
    (hentry : t.entryAt (loc ++ [name]) = some (.link target))
    (hfind : seen.find { place with location := place.location ++ [name] } = none)
    (hends : t.Ends m (loc ++ [name]) out) (hle : m ≤ n) :
    ∃ left, fuel = left + 1 ∧
      Ready t count m left (({ place with location := place.location ++ [name] }, none) :: seen)
        (place.origin target) (origin loc target) := by
  obtain ⟨rfl, hwithin, htracked, hfuel⟩ := h
  let link : Place := { place with location := place.location ++ [name] }
  have hmem : link ∈ t.unseen count seen := mem_unseen hentry hwithin hfind
  have hpos := Finset.card_pos.2 ⟨link, hmem⟩
  refine ⟨fuel - 1, by omega, place.location_origin target, hwithin.origin target,
    (htracked.mono hle).begin hends, ?_⟩
  rw [unseen_cons, Finset.card_erase_of_mem hmem]
  omega

/-- When its target has been followed to the end, the link is done. -/
theorem Ready.finish {inside : Visited} {link : Place} (h : Tracked t count n seen)
    (hinside : Ready t count 0 fuel inside reached out) (hends : t.Ends m link.location out)
    (hbusy : ∀ other, inside.find other = some none →
      Visited.find ((link, none) :: seen) other = some none) :
    Ready t count n fuel ((link, some reached) :: inside) reached out ∧
      ∀ other, Visited.find ((link, some reached) :: inside) other = some none →
        seen.find other = some none := by
  obtain ⟨rfl, hwithin, htracked, hfuel⟩ := hinside
  obtain ⟨hafter, hold⟩ := h.finish htracked hwithin hends hbusy
  refine ⟨⟨rfl, hwithin, hafter, ?_⟩, hold⟩
  rw [unseen_cons]
  exact Finset.card_erase_le.trans hfuel

/-- A search that works through names reaches the place where they lead. The links that it still
follows then are those that it followed before. -/
theorem Leads.trace (h : Leads t n loc steps out) (hready : Ready t count n fuel seen place loc) :
    ∃ fuel' seen' reached, t.trace fuel seen place (steps.map .step ++ tasks) =
        t.trace fuel' seen' reached tasks ∧
      Ready t count 0 fuel' seen' reached out ∧
      ∀ place, seen'.find place = some none → seen.find place = some none := by
  induction h generalizing seen fuel place tasks with
  | done => exact ⟨fuel, seen, place, rfl, hready, fun _ => id⟩
  | stay hname h ih =>
    rw [List.map_cons, List.cons_append, trace_stay hname]
    exact ih hready
  | up h ih =>
    rw [List.map_cons, List.cons_append, trace_up]
    exact ih (hready.next (congrArg List.dropLast hready.location) hready.within.up le_rfl)
  | @down _ _ _ name _ hname hentry h ih =>
    obtain rfl := hready.location
    rw [List.map_cons, List.cons_append, trace_down hname hentry]
    exact ih (hready.next rfl hready.within le_rfl)
  | @follow n m _ mid out name target rest hname hentry hlink h ihLink ih =>
    obtain rfl := hready.location
    have hends : t.Ends n (place.location ++ [name]) mid :=
      ⟨target, hentry, by rwa [List.dropLast_concat]⟩
    rw [List.map_cons, List.cons_append]
    cases hfind : seen.find { place with location := place.location ++ [name] } with
    | some result =>
      cases result with
      | some reached =>
        obtain ⟨hreached, _, hled⟩ := hready.tracked.ended _ reached hfind
        obtain ⟨-, hmid⟩ := hends.unique hled
        rw [trace_met hname hentry hfind]
        exact ih (hready.next hmid.symm hreached (by omega))
      | none =>
        -- A link that is still followed takes more steps than this one does.
        obtain ⟨k, out', hbusy, hk⟩ := hready.tracked.busy _ hfind
        obtain ⟨rfl, -⟩ := hends.unique hbusy
        omega
    | none =>
      obtain ⟨left, rfl, hbegin⟩ := hready.begin hentry hfind hends (by omega)
      obtain ⟨fuel₁, seen₁, reached, hrun, hinside, hbusy⟩ := ihLink hbegin
      obtain ⟨hafter, hold⟩ :=
        Ready.finish (hready.tracked.mono (by omega : m ≤ n + m + 1)) hinside hends hbusy
      obtain ⟨fuel₂, seen₂, last, hrun₂, hlast, hbusy₂⟩ := ih hafter
      refine ⟨fuel₂, seen₂, last, ?_, hlast, fun p hp => hold p (hbusy₂ p hp)⟩
      rw [trace_new hname hentry hfind, hrun, FileTree.trace, hrun₂]

/-- The canonical spelling of a path is that of the place where it leads. -/
theorem Leads.canonicalPath {cwd : Location} {p : Path}
    (h : Leads t n (if p.isAbsolute then [] else cwd) p.parts out) :
    t.canonicalPath cwd p = ⟨.root, out⟩ := by
  let start : Place := if p.isAbsolute then ⟨none, []⟩ else ⟨some cwd.length, cwd⟩
  let count := start.kept.getD 0
  have hstart : start.location = if p.isAbsolute then [] else cwd := by
    dsimp only [start]
    split <;> rfl
  have hwithin : start.Within count := fun kept hkept => by
    rw [Option.mem_def] at hkept
    simp only [count, hkept, Option.getD_some, le_refl]
  have hfuel : (t.unseen count []).card ≤ (count + 2) * t.linkCount := by
    rw [← length_linkPlaces]
    exact (Finset.card_filter_le _ _).trans (List.toFinset_card_le _)
  have hempty : Tracked t count n [] :=
    ⟨fun _ _ hplace => (nomatch hplace), fun _ hplace => (nomatch hplace)⟩
  obtain ⟨fuel, seen, reached, hrun, ⟨rfl, -⟩, -⟩ :=
    @h.trace _ _ _ _ _ _ _ _ _ [] ⟨hstart, hwithin, hempty, hfuel⟩
  rw [List.append_nil] at hrun
  change FileTree.trace t ((count + 2) * t.linkCount) [] start (p.parts.map .step) = _
  rw [hrun, FileTree.trace]

end FileTree

end PascalWorkspace
