import Mathlib.Data.Finset.Option
import Mathlib.Data.Fintype.BigOperators
import PascalWorkspace.Proofs.FileTree.Follows

/-! How many absolute paths without dots lead anywhere. Each of their names is the name of an entry.
It goes down by one, or it names a link, of which only so many are followed. -/
namespace PascalWorkspace

namespace FileTree

variable {t : FileTree} {links : Nat} {loc out : Location} {name : String} {steps : List String}
  {entry : Entry} {paths : List Path}

/-- The names of the entries. -/
def names (t : FileTree) : Finset String := (t.entries.filterMap fun e => e.1.getLast?).toFinset

theorem card_names_le (t : FileTree) : t.names.card ≤ t.entries.length :=
  (List.toFinset_card_le _).trans (List.length_filterMap_le _ _)

theorem mem_names (h : t.entryAt (loc ++ [name]) = some entry) : name ∈ t.names := by
  have hmem := mem_entries (by simp) h
  exact List.mem_toFinset.2 (List.mem_filterMap.2 ⟨_, hmem, List.getLast?_concat⟩)

theorem Follows.mem_names (h : Follows t links loc steps out) (hname : name ∈ steps)
    (hdown : GoesDown name) : name ∈ t.names := by
  induction h with
  | done => cases hname
  | stay _ _ ih =>
    obtain rfl | hname := List.mem_cons.1 hname
    · exact absurd rfl hdown.notDot
    · exact ih hname
  | up _ _ ih =>
    obtain rfl | hname := List.mem_cons.1 hname
    · exact absurd rfl hdown.notUp
    · exact ih hname
  | enter _ _ _ _ hentry _ _ ih =>
    obtain rfl | hname := List.mem_cons.1 hname
    · exact FileTree.mem_names hentry
    · exact ih hname
  | link _ _ _ _ hentry _ ih =>
    obtain rfl | hname := List.mem_cons.1 hname
    · exact FileTree.mem_names hentry
    · exact ih (List.mem_append_right _ hname)

theorem length_origin_le (loc : Location) (target : String) :
    (origin loc target).length ≤ loc.length := by
  unfold origin
  split
  · exact Nat.zero_le _
  · exact le_rfl

/-- No way leads deeper than the tree. -/
theorem Follows.length_out_le (h : Follows t links loc steps out) (hloc : loc.length ≤ t.depth) :
    out.length ≤ t.depth := by
  induction h with
  | done => exact hloc
  | stay _ _ ih => exact ih hloc
  | up _ _ ih => exact ih ((List.dropLast_sublist _).length_le.trans hloc)
  | enter _ _ _ _ hentry _ _ ih => exact ih (length_le_depth hentry)
  | link _ _ _ _ _ _ ih => exact ih ((length_origin_le _ _).trans hloc)

/-- Between two links the names go down, each by one. -/
theorem Follows.length_le (h : Follows t links loc steps out)
    (hsteps : ∀ name ∈ steps, GoesDown name) (hloc : loc.length ≤ t.depth) :
    steps.length + loc.length ≤ links * (t.depth + 1) + t.depth := by
  induction steps generalizing links loc with
  | nil =>
    rw [List.length_nil]
    omega
  | cons name rest ih =>
    obtain ⟨hname, hrest⟩ := List.forall_mem_cons.1 hsteps
    rw [List.length_cons]
    cases h with
    | stay => exact absurd rfl hname.notDot
    | up => exact absurd rfl hname.notUp
    | enter _ _ _ _ hentry _ h =>
      have hlater := ih h hrest (length_le_depth hentry)
      rw [List.length_append, List.length_singleton] at hlater
      omega
    | @link links _ _ _ target _ _ _ _ _ hentry h =>
      obtain ⟨fewer, mid, hfewer, hfirst, hlast⟩ := h.split
      have horigin : (origin loc target).length ≤ t.depth :=
        (length_origin_le loc target).trans hloc
      have hlater := ih hlast hrest (hfirst.length_out_le horigin)
      have hlinks := Nat.mul_le_mul_right (t.depth + 1) hfewer
      rw [Nat.add_mul, Nat.one_mul]
      omega

/-- A path as the names in it, one after the other. -/
def code (length : Nat) (p : Path) : Anchor × (Fin length → Option String) :=
  (p.anchor, fun i => p.parts[i]?)

theorem code_injective {length : Nat} {p q : Path} (hp : p.parts.length ≤ length)
    (hq : q.parts.length ≤ length) (h : code length p = code length q) : p = q := by
  obtain ⟨hanchor, hparts⟩ := Prod.mk.inj h
  have hsame : p.parts = q.parts := by
    refine List.ext_getElem? fun i => ?_
    by_cases hi : i < length
    · exact congrFun hparts ⟨i, hi⟩
    · rw [List.getElem?_eq_none (by omega), List.getElem?_eq_none (by omega)]
  obtain ⟨anchor, parts⟩ := p
  obtain ⟨anchor', parts'⟩ := q
  exact congrArg₂ Path.mk hanchor hsame

/-- There are no more absolute paths without dots that lead anywhere than the bound says. -/
theorem length_le_pathBound (hnodup : paths.Nodup) (habsolute : ∀ p ∈ paths, p.anchor ≠ .relative)
    (hdown : ∀ p ∈ paths, ∀ name ∈ p.parts, GoesDown name)
    (hleads : ∀ p ∈ paths, ∃ out, t.locate [] p.parts = .ok out) :
    paths.length ≤ t.pathBound := by
  let length := (maxLinks + 1) * (t.depth + 1)
  let codes : Finset (Anchor × (Fin length → Option String)) :=
    {.root, .doubleRoot} ×ˢ Fintype.piFinset fun _ => t.names.insertNone
  have hfollows (p : Path) (hp : p ∈ paths) : ∃ out, Follows t maxLinks [] p.parts out := by
    obtain ⟨out, hout⟩ := hleads p hp
    exact ⟨out, follow_eq_ok_iff.1 hout⟩
  have hlength (p : Path) (hp : p ∈ paths) : p.parts.length ≤ length := by
    obtain ⟨out, hout⟩ := hfollows p hp
    have hle := hout.length_le (hdown p hp) (Nat.zero_le _)
    simp only [length, Nat.add_mul, Nat.one_mul, List.length_nil] at hle ⊢
    omega
  have hcode (p : Path) (hp : p ∈ paths) : code length p ∈ codes := by
    refine Finset.mem_product.2 ⟨?_, Fintype.mem_piFinset.2 fun i => ?_⟩
    · have hp := habsolute p hp
      cases hanchor : p.anchor <;> simp_all [code]
    · refine Finset.mem_insertNone.2 fun name hname => ?_
      have hmem : name ∈ p.parts := List.mem_of_getElem? hname
      obtain ⟨out, hout⟩ := hfollows p hp
      exact hout.mem_names hmem (hdown p hp name hmem)
  have hcard : codes.card ≤ t.pathBound := by
    rw [Finset.card_product, Fintype.card_piFinset_const, Finset.card_insertNone, pathBound]
    exact Nat.mul_le_mul le_rfl (Nat.pow_le_pow_left (Nat.succ_le_succ t.card_names_le) _)
  rw [← List.toFinset_card_of_nodup hnodup]
  refine (Finset.card_le_card_of_injOn (code length) (fun p hp => ?_) fun p hp q hq h => ?_).trans
    hcard
  · exact hcode p (by simpa using hp)
  · exact code_injective (hlength p (by simpa using hp)) (hlength q (by simpa using hq)) h

end FileTree

end PascalWorkspace
