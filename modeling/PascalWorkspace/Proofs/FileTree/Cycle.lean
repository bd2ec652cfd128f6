import Mathlib.Order.WellFoundedSet
import PascalWorkspace.Proofs.FileTree.Leads

/-! Loops of links. A link crosses the links that are met on the way of its target, at which names
that do not exist are passed over. A tree has no loop exactly if every link can be followed to its
end. -/
namespace PascalWorkspace

namespace FileTree

variable {t : FileTree} {n : Nat} {loc out link other : Location} {name : String}
  {steps rest : List String}

/-- The names meet a link on the way from a place. Links before it are followed to their ends. -/
inductive Meets (t : FileTree) : Location → List String → Location → Prop where
  | here {loc : Location} {name target : String} {rest : List String} (hname : GoesDown name)
      (hentry : t.entryAt (loc ++ [name]) = some (.link target)) :
      Meets t loc (name :: rest) (loc ++ [name])
  | stay {loc link : Location} {name : String} {rest : List String}
      (hname : name = "" ∨ name = ".") (h : Meets t loc rest link) : Meets t loc (name :: rest) link
  | up {loc link : Location} {rest : List String} (h : Meets t loc.dropLast rest link) :
      Meets t loc (".." :: rest) link
  | down {loc link : Location} {name : String} {rest : List String} (hname : GoesDown name)
      (hentry : ∀ target, t.entryAt (loc ++ [name]) ≠ some (.link target))
      (h : Meets t (loc ++ [name]) rest link) : Meets t loc (name :: rest) link
  | after {n : Nat} {loc mid link : Location} {name target : String} {rest : List String}
      (hname : GoesDown name) (hentry : t.entryAt (loc ++ [name]) = some (.link target))
      (hlink : Leads t n (origin loc target) (Path.pieces target) mid)
      (h : Meets t mid rest link) : Meets t loc (name :: rest) link

theorem Meets.exists_target (h : Meets t loc steps link) :
    ∃ target, t.entryAt link = some (.link target) := by
  induction h with
  | here _ hentry => exact ⟨_, hentry⟩
  | stay _ _ ih | up _ ih | down _ _ _ ih | after _ _ _ _ ih => exact ih

/-- The target of a link meets another one. -/
def Crosses (t : FileTree) (link other : Location) : Prop :=
  ∃ target, t.entryAt link = some (.link target) ∧
    Meets t (origin link.dropLast target) (Path.pieces target) other

/-- No link crosses itself, not by way of others either. -/
def Acyclic (t : FileTree) : Prop := ∀ link, ¬ Relation.TransGen t.Crosses link link

/-- If the names lead somewhere then the links that they meet do too, and on the way of each there
are fewer links. -/
theorem Meets.exists_ends (h : Meets t loc steps link) (hleads : Leads t n loc steps out) :
    ∃ m last, t.Ends m link last ∧ m < n := by
  induction h generalizing n out with
  | here hname hentry =>
    cases hleads with
    | stay hstay => exact (hstay.elim hname.nonempty hname.notDot).elim
    | up => exact absurd rfl hname.notUp
    | down _ hentry' => exact absurd hentry (hentry' _)
    | @follow n m _ mid _ _ target _ _ hentry' hlink =>
      have hends : t.Ends n (_ ++ [_]) mid := ⟨target, hentry', by rwa [List.dropLast_concat]⟩
      exact ⟨n, mid, hends, by omega⟩
  | stay hstay _ ih =>
    cases hleads with
    | stay _ h => exact ih h
    | up => simp at hstay
    | down hname => exact (hstay.elim hname.nonempty hname.notDot).elim
    | follow hname => exact (hstay.elim hname.nonempty hname.notDot).elim
  | up _ ih =>
    cases hleads with
    | stay hstay => simp at hstay
    | up h => exact ih h
    | down hname => exact absurd rfl hname.notUp
    | follow hname => exact absurd rfl hname.notUp
  | down hname hentry _ ih =>
    cases hleads with
    | stay hstay => exact (hstay.elim hname.nonempty hname.notDot).elim
    | up => exact absurd rfl hname.notUp
    | down _ _ h => exact ih h
    | follow _ hentry' => exact absurd hentry' (hentry _)
  | after hname hentry hlink _ ih =>
    cases hleads with
    | stay hstay => exact (hstay.elim hname.nonempty hname.notDot).elim
    | up => exact absurd rfl hname.notUp
    | down _ hentry' => exact absurd hentry (hentry' _)
    | @follow n m _ _ _ _ _ _ _ hentry' hlink' h =>
      obtain rfl := Entry.link.inj (Option.some.inj (hentry.symm.trans hentry'))
      obtain ⟨-, rfl⟩ := hlink.unique hlink'
      obtain ⟨k, last, hends, hk⟩ := ih h
      exact ⟨k, last, hends, by omega⟩

/-- Names lead somewhere if all links that they meet do. -/
theorem exists_leads_of_meets
    (h : ∀ link, Meets t loc steps link → ∃ n out, t.Ends n link out) :
    ∃ n out, Leads t n loc steps out := by
  induction steps generalizing loc with
  | nil => exact ⟨0, loc, .done⟩
  | cons name rest ih =>
    by_cases hstay : name = "" ∨ name = "."
    · obtain ⟨n, out, hrest⟩ := ih fun link hlink => h link (.stay hstay hlink)
      exact ⟨n, out, .stay hstay hrest⟩
    · by_cases hup : name = ".."
      · subst hup
        obtain ⟨n, out, hrest⟩ := ih fun link hlink => h link (.up hlink)
        exact ⟨n, out, .up hrest⟩
      · have hname : GoesDown name := ⟨fun h => hstay (.inl h), fun h => hstay (.inr h), hup⟩
        by_cases hlink : ∃ target, t.entryAt (loc ++ [name]) = some (.link target)
        · obtain ⟨target, hentry⟩ := hlink
          obtain ⟨n, mid, target', hentry', hends⟩ := h _ (.here hname hentry)
          obtain rfl := Entry.link.inj (Option.some.inj (hentry.symm.trans hentry'))
          rw [List.dropLast_concat] at hends
          obtain ⟨m, out, hrest⟩ := ih fun link hlink => h link (.after hname hentry hends hlink)
          exact ⟨n + m + 1, out, .follow hname hentry hends hrest⟩
        · have hdown : ∀ target, t.entryAt (loc ++ [name]) ≠ some (.link target) :=
            fun target hentry => hlink ⟨target, hentry⟩
          obtain ⟨n, out, hrest⟩ := ih fun link hlink => h link (.down hname hdown hlink)
          exact ⟨n, out, .down hname hdown hrest⟩

/-- Fewer links are on the way of a link that is crossed. -/
theorem Crosses.exists_ends (h : t.Crosses link other) (hends : t.Ends n link out) :
    ∃ m last, t.Ends m other last ∧ m < n := by
  obtain ⟨target, hentry, hmeets⟩ := h
  obtain ⟨target', hentry', hleads⟩ := hends
  obtain rfl := Entry.link.inj (Option.some.inj (hentry.symm.trans hentry'))
  exact hmeets.exists_ends hleads

theorem acyclic_of_loopFree (ht : t.LoopFree) : t.Acyclic := by
  intro link hcycle
  have hfewer {other : Location} (h : Relation.TransGen t.Crosses link other) (n : Nat)
      (out : Location) (hends : t.Ends n link out) : ∃ m last, t.Ends m other last ∧ m < n := by
    induction h with
    | single h => exact h.exists_ends hends
    | tail _ h ih =>
      obtain ⟨m, last, hends', hm⟩ := ih
      obtain ⟨k, last', hends'', hk⟩ := h.exists_ends hends'
      exact ⟨k, last', hends'', hk.trans hm⟩
  obtain ⟨other, ⟨target, hentry, -⟩, -⟩ := Relation.TransGen.head'_iff.1 hcycle
  obtain ⟨n, out, hends⟩ := ht link target hentry
  obtain ⟨m, last, hends', hm⟩ := hfewer hcycle n out hends
  exact absurd (hends.unique hends').1 hm.ne'

/-- The places of links. -/
def links (t : FileTree) : Set Location := {link | ∃ target, t.entryAt link = some (.link target)}

theorem finite_links (t : FileTree) : t.links.Finite := by
  refine (t.entries.map (·.1)).finite_toSet.subset ?_
  rintro link ⟨target, hentry⟩
  exact List.mem_map.2 ⟨_, mem_entries (ne_root_of_link hentry) hentry, rfl⟩

/-- There are finitely many links, so crossing from link to link comes to an end. -/
theorem Acyclic.wellFoundedOn (ht : t.Acyclic) :
    t.links.WellFoundedOn fun other link => Relation.TransGen t.Crosses link other := by
  have : IsStrictOrder Location fun other link => Relation.TransGen t.Crosses link other :=
    { irrefl := ht, trans := fun _ _ _ h h' => h'.trans h }
  exact t.finite_links.wellFoundedOn

theorem loopFree_of_acyclic (ht : t.Acyclic) : t.LoopFree := by
  have hall : ∀ link ∈ t.links, ∃ n out, t.Ends n link out := by
    intro link hlink
    apply ht.wellFoundedOn.induction hlink
    rintro link ⟨target, hentry⟩ ih
    obtain ⟨n, out, hleads⟩ := exists_leads_of_meets fun other hmeets =>
      ih other hmeets.exists_target (.single ⟨target, hentry, hmeets⟩)
    exact ⟨n, out, target, hentry, hleads⟩
  exact fun link target hentry => hall link ⟨target, hentry⟩

/-- Every link can be followed to its end exactly if there is no loop. -/
theorem loopFree_iff_acyclic : t.LoopFree ↔ t.Acyclic :=
  ⟨acyclic_of_loopFree, loopFree_of_acyclic⟩

end FileTree

end PascalWorkspace
