import Mathlib.Data.List.Nodup

/-! Lists of named values in which each name has one value. A value that is entered takes the place
of the one under its name, or stands at the end. -/
namespace PascalWorkspace.Entries

variable {α β : Type} [DecidableEq α] {entries : List (α × β)} {name other : α} {value : β}
  {f : Option β → β}

/-- Changes the value under a name, or enters one at the end. -/
def upsert (entries : List (α × β)) (name : α) (f : Option β → β) : List (α × β) :=
  if entries.any (·.1 == name) then
    entries.map fun e => if e.1 = name then (name, f (some e.2)) else e
  else entries ++ [(name, f none)]

theorem lookup_cons : ((name, value) :: entries).lookup other =
    if other = name then some value else entries.lookup other := by
  rw [List.lookup_cons]
  by_cases h : other = name
  · simp [h]
  · rw [beq_false_of_ne h, if_neg h]

theorem lookup_eq_none : entries.lookup name = none ↔ name ∉ entries.map (·.1) := by
  rw [List.lookup_eq_none_iff, List.mem_map]
  constructor
  · rintro h ⟨e, he, rfl⟩
    exact bne_iff_ne.1 (h e he) rfl
  · exact fun h e he => bne_iff_ne.2 fun heq => h ⟨e, he, heq.symm⟩

theorem any_eq_true_iff : entries.any (·.1 == name) = true ↔ name ∈ entries.map (·.1) := by
  simp

theorem lookup_map_change :
    (entries.map fun e => if e.1 = name then (name, f (some e.2)) else e).lookup other =
      if other = name then (entries.lookup name).map fun value => f (some value)
      else entries.lookup other := by
  induction entries with
  | nil => simp
  | cons e entries ih =>
    obtain ⟨key, value⟩ := e
    rw [List.map_cons]
    dsimp only
    by_cases hkey : key = name
    · subst hkey
      rw [if_pos rfl, lookup_cons, lookup_cons, lookup_cons, if_pos rfl, ih]
      by_cases hother : other = key
      · rw [if_pos hother, if_pos hother, Option.map_some]
      · rw [if_neg hother, if_neg hother, if_neg hother, if_neg hother]
    · rw [if_neg hkey, lookup_cons, lookup_cons, lookup_cons, if_neg (Ne.symm hkey), ih]
      by_cases hother : other = name
      · rw [if_pos hother, if_pos hother, if_neg (hother ▸ Ne.symm hkey)]
      · rw [if_neg hother, if_neg hother]

/-- Only the value under the name changes. -/
theorem lookup_upsert : (upsert entries name f).lookup other =
    if other = name then some (f (entries.lookup name)) else entries.lookup other := by
  unfold upsert
  split
  · next hknown =>
    obtain ⟨value, hvalue⟩ : ∃ value, entries.lookup name = some value := by
      refine Option.ne_none_iff_exists'.1 fun hnone => ?_
      exact lookup_eq_none.1 hnone (any_eq_true_iff.1 hknown)
    rw [lookup_map_change, hvalue, Option.map_some]
  · next hnew =>
    have hnone : entries.lookup name = none := lookup_eq_none.2 (mt any_eq_true_iff.2 hnew)
    rw [List.lookup_append, lookup_cons]
    split
    · next heq => rw [heq, hnone, Option.none_or]
    · rw [List.lookup_nil, Option.or_none]

/-- A name that has no value yet comes last. -/
theorem keys_upsert : (upsert entries name f).map (·.1) =
    if name ∈ entries.map (·.1) then entries.map (·.1) else entries.map (·.1) ++ [name] := by
  have hmap : (entries.map fun e => if e.1 = name then (name, f (some e.2)) else e).map (·.1) =
      entries.map (·.1) := by
    rw [List.map_map]
    refine List.map_congr_left fun e _ => ?_
    by_cases he : e.1 = name <;> simp [he]
  unfold upsert
  by_cases h : name ∈ entries.map (·.1)
  · rw [if_pos (any_eq_true_iff.2 h), if_pos h, hmap]
  · rw [if_neg (mt any_eq_true_iff.1 h), if_neg h, List.map_append]
    rfl

theorem mem_keys_upsert :
    other ∈ (upsert entries name f).map (·.1) ↔ other ∈ entries.map (·.1) ∨ other = name := by
  rw [keys_upsert]
  split
  · next h => exact ⟨.inl, fun ho => ho.elim id fun heq => heq ▸ h⟩
  · rw [List.mem_append, List.mem_singleton]

theorem nodup_upsert (h : (entries.map (·.1)).Nodup) :
    ((upsert entries name f).map (·.1)).Nodup := by
  rw [keys_upsert]
  split
  · exact h
  · next hnew =>
    refine List.nodup_append.2 ⟨h, List.nodup_singleton _, fun a ha b hb heq => ?_⟩
    obtain rfl := List.mem_singleton.1 hb
    exact hnew (heq ▸ ha)

end PascalWorkspace.Entries
