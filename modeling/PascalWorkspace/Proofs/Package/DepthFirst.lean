import Mathlib.Data.Set.Card
import PascalWorkspace.Proofs.Package.Reach

/-! The order in which a depth-first search comes to the places that it visits: each once, before
what is found from it. The search passes over what is marked, and marks what it has visited. -/
namespace PascalWorkspace

/-- From some starts a search visits these places, in this order: of a start that is not marked
first the place itself, then what is found from those next to it, then what is found from the later
starts. -/
inductive DepthFirst {α : Type} (next : α → List α) : (α → Prop) → List α → List α → Prop
  | done {marked : α → Prop} : DepthFirst next marked [] []
  | skip {marked : α → Prop} {a : α} {rest order : List α} (ha : marked a)
      (hrest : DepthFirst next marked rest order) : DepthFirst next marked (a :: rest) order
  | visit {marked : α → Prop} {a : α} {rest below later : List α} (ha : ¬ marked a)
      (hbelow : DepthFirst next (fun x => x = a ∨ marked x) (next a) below)
      (hlater : DepthFirst next (fun x => x ∈ a :: below ∨ marked x) rest later) :
      DepthFirst next marked (a :: rest) (a :: below ++ later)

namespace DepthFirst

variable {α : Type} {next : α → List α} {marked : α → Prop} {a b : α} {starts order other : List α}

/-- The order is determined. -/
theorem unique (h : DepthFirst next marked starts order)
    (hother : DepthFirst next marked starts other) : order = other := by
  induction h generalizing other with
  | done =>
    cases hother
    rfl
  | skip ha _ ih =>
    cases hother with
    | skip _ hrest => exact ih hrest
    | visit hnot => exact absurd ha hnot
  | visit ha _ _ ihbelow ihlater =>
    cases hother with
    | skip hmarked => exact absurd hmarked ha
    | visit _ hbelow hlater =>
      obtain rfl := ihbelow hbelow
      rw [ihlater hlater]

theorem not_marked (h : DepthFirst next marked starts order) (ha : a ∈ order) : ¬ marked a := by
  induction h with
  | done => cases ha
  | skip _ _ ih => exact ih ha
  | visit hnot _ _ ihbelow ihlater =>
    obtain hfirst | hlater := List.mem_append.1 ha
    · obtain rfl | hbelow := List.mem_cons.1 hfirst
      · exact hnot
      · exact (not_or.1 (ihbelow hbelow)).2
    · exact (not_or.1 (ihlater hlater)).2

/-- No place is visited twice. -/
theorem nodup (h : DepthFirst next marked starts order) : order.Nodup := by
  induction h with
  | done => exact .nil
  | skip _ _ ih => exact ih
  | visit _ hbelow hlater ihbelow ihlater =>
    have hfirst : _ ∉ _ := fun hmem => hbelow.not_marked hmem (.inl rfl)
    refine List.nodup_append'.2 ⟨List.nodup_cons.2 ⟨hfirst, ihbelow⟩, ihlater, ?_⟩
    exact fun x hx hlate => hlater.not_marked hlate (.inl hx)

/-- A search that visits the place that it begins with visits it first. -/
theorem exists_tail (h : DepthFirst next marked [a] order) (ha : ¬ marked a) :
    ∃ below, order = a :: below ∧ a ∉ below := by
  have hnodup := h.nodup
  cases h with
  | skip hmarked => exact absurd hmarked ha
  | @visit _ _ _ below later _ _ _ =>
    refine ⟨below ++ later, rfl, ?_⟩
    exact (List.nodup_cons.1 hnodup).1

/-- A way either avoids some places with all that is found from them, or it ends there. -/
theorem avoiding_or_mem {found : α → Prop} {next : α → α → Prop}
    (hclosed : ∀ x y, found x → next x y → ¬ marked y → found y)
    (h : Avoiding next marked a b) :
    found b ∨ Avoiding next (fun x => found x ∨ marked x) a b := by
  obtain ⟨ha, hway⟩ := h
  induction hway with
  | refl =>
    by_cases hfound : found a
    · exact .inl hfound
    · exact .inr (.refl (not_or.2 ⟨hfound, ha⟩))
  | @tail x y _ hxy ih =>
    by_cases hfound : found y
    · exact .inl hfound
    · obtain hx | hway := ih
      · exact absurd (hclosed x y hx hxy.1 hxy.2) hfound
      · exact .inr (hway.tail hxy.1 (not_or.2 ⟨hfound, hxy.2⟩))

/-- What is visited is what can be reached without passing through a marked place. -/
theorem mem_iff (h : DepthFirst next marked starts order) :
    b ∈ order ↔ ∃ a ∈ starts, Avoiding (fun x y => y ∈ next x) marked a b := by
  induction h generalizing b with
  | done => simp
  | skip ha _ ih =>
    rw [ih]
    refine ⟨fun ⟨s, hs, hway⟩ => ⟨s, List.mem_cons_of_mem _ hs, hway⟩, ?_⟩
    rintro ⟨s, hs, hway⟩
    obtain rfl | hs := List.mem_cons.1 hs
    · exact absurd ha hway.1
    · exact ⟨s, hs, hway⟩
  | @visit marked a rest below later ha _ _ ihbelow ihlater =>
    rw [avoiding_visit ha fun _ => Iff.rfl, List.cons_append, List.mem_cons, List.mem_append]
    refine or_congr_right ⟨?_, ?_⟩
    · rintro (hb | hb)
      · obtain ⟨s, hs, hway⟩ := ihbelow.1 hb
        exact ⟨s, List.mem_append_left _ hs, hway⟩
      · obtain ⟨s, hs, hway⟩ := ihlater.1 hb
        refine ⟨s, List.mem_append_right _ hs, hway.mono fun x hx => ?_⟩
        exact hx.imp_left fun hxa => List.mem_cons.2 (.inl hxa)
    · rintro ⟨s, hs, hway⟩
      obtain hs | hs := List.mem_append.1 hs
      · exact .inl (ihbelow.2 ⟨s, hs, hway⟩)
      · have hclosed : ∀ x y, x ∈ below → y ∈ next x → ¬ (y = a ∨ marked y) → y ∈ below := by
          intro x y hx hxy hy
          obtain ⟨t, ht, hway⟩ := ihbelow.1 hx
          exact ihbelow.2 ⟨t, ht, hway.tail hxy hy⟩
        refine (avoiding_or_mem hclosed hway).imp_right fun hway => ihlater.2 ⟨s, hs, ?_⟩
        refine hway.mono fun x hx => ?_
        rwa [List.mem_cons, or_assoc, or_left_comm] at hx

/-- The search comes to an end where only finitely many places are not marked. -/
theorem exists_order (hfinite : {x | ¬ marked x}.Finite) (starts : List α) :
    ∃ order, DepthFirst next marked starts order := by
  induction hcard : {x | ¬ marked x}.ncard using Nat.strongRecOn generalizing marked starts with
  | _ n ih =>
    subst hcard
    have hfewer (visited : α → Prop) (a : α) (ha : ¬ marked a) (hvisited : visited a)
        (starts : List α) :
        ∃ order, DepthFirst next (fun x => visited x ∨ marked x) starts order := by
      have hsub : {x | ¬ (visited x ∨ marked x)} ⊂ {x | ¬ marked x} := by
        refine ⟨fun x hx => (not_or.1 hx).2, fun hback => ?_⟩
        exact (not_or.1 (hback ha)).1 hvisited
      exact ih _ (Set.ncard_lt_ncard hsub hfinite) (hfinite.subset hsub.1) starts rfl
    induction starts with
    | nil => exact ⟨[], .done⟩
    | cons a rest ihrest =>
      by_cases ha : marked a
      · obtain ⟨order, hrest⟩ := ihrest
        exact ⟨order, .skip ha hrest⟩
      · obtain ⟨below, hbelow⟩ := hfewer (· = a) a ha rfl (next a)
        obtain ⟨later, hlater⟩ := hfewer (· ∈ a :: below) a ha List.mem_cons_self rest
        exact ⟨_, .visit ha hbelow hlater⟩

end DepthFirst

namespace Registry

variable {r : Registry} {marked : String → Prop} {key other : String}

/-- A search among packages comes to an end, since it visits registered ones only. -/
theorem exists_depthFirst (hmarked : ∀ key, r.find? key = none → marked key)
    (next : String → List String) (starts : List String) :
    ∃ order, DepthFirst next marked starts order := by
  have hregistered : {key | (r.find? key).isSome}.Finite := r.finite_registered
  refine DepthFirst.exists_order (hregistered.subset fun key hkey => ?_) starts
  exact Option.isSome_iff_ne_none.2 fun hnone => hkey (hmarked key hnone)

/-- If of what can be reached nothing is marked but what is not registered, then every way to a
registered package avoids what is marked. -/
theorem avoiding_iff {next : String → String → Prop}
    (hnext : ∀ ⦃x y⦄, next x y → (r.find? x).isSome)
    (hmarked : ∀ x, Relation.ReflTransGen next key x → (marked x ↔ r.find? x = none)) :
    Avoiding next marked key other ↔
      (r.find? other).isSome ∧ Relation.ReflTransGen next key other := by
  constructor
  · intro h
    have hway : Relation.ReflTransGen next key other :=
      Relation.ReflTransGen.mono (fun _ _ hxy => hxy.1) _ _ h.2
    have hother : ¬ marked other := by
      obtain rfl | ⟨x, -, hlast⟩ := h.2.cases_tail
      · exact h.1
      · exact hlast.2
    rw [hmarked other hway] at hother
    exact ⟨Option.isSome_iff_ne_none.2 hother, hway⟩
  · rintro ⟨hother, hway⟩
    have hfree (x : String) (hx : Relation.ReflTransGen next key x) (hsome : (r.find? x).isSome) :
        ¬ marked x := by
      rw [hmarked x hx]
      exact Option.isSome_iff_ne_none.1 hsome
    induction hway with
    | refl => exact .refl (hfree key .refl hother)
    | @tail x y hx hxy ih => exact (ih (hnext hxy)).tail hxy (hfree y (hx.tail hxy) hother)

end Registry

end PascalWorkspace
