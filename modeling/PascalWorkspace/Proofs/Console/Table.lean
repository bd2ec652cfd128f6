import PascalWorkspace.Console.Table
import PascalWorkspace.Proofs.Console.Plain
import PascalWorkspace.Proofs.Except

/-! Tables row by row. The columns are shown one after the other, and yet each row shows its own
cells; a text without marks shows its lines. -/
namespace PascalWorkspace.Console

variable {cs line : List Char} {markup text : String} {t : Table} {shown : ShownTable}

/-! ### Cells -/

/-- The lines of a text, as they are. -/
def plainLines (text : String) : List String :=
  (Table.splitLines text.toList).map String.ofList

namespace Table

theorem expandTabs_of_notMem {column : Nat} (h : '\t' ∉ cs) : expandTabs column cs = cs := by
  induction cs generalizing column with
  | nil => rfl
  | cons c cs ih =>
    obtain ⟨hc, hcs⟩ := not_or.1 (List.mem_cons.not.1 h)
    rw [expandTabs.eq_3 _ _ _ (Ne.symm hc), ih hcs]

theorem subset_of_mem_splitLines (h : line ∈ splitLines cs) : line ⊆ cs := by
  induction cs generalizing line with
  | nil =>
    obtain rfl := List.mem_singleton.1 h
    exact List.Subset.refl _
  | cons c cs ih =>
    by_cases hc : c = '\n'
    · subst hc
      obtain rfl | h := List.mem_cons.1 h
      · exact List.nil_subset _
      · exact List.subset_cons_of_subset _ (ih h)
    · rw [splitLines.eq_3 _ _ hc] at h
      split at h
      · obtain rfl := List.mem_singleton.1 h
        simp
      · next first others hlines =>
        rw [hlines] at ih
        obtain rfl | h := List.mem_cons.1 h
        · exact List.cons_subset_cons _ (ih List.mem_cons_self)
        · exact List.subset_cons_of_subset _ (ih (List.mem_cons_of_mem _ h))

theorem cellLines_of_render (hrender : Console.render markup = .ok text)
    (htabs : '\t' ∉ text.toList) : cellLines markup = .ok (plainLines text) := by
  have hlines : (splitLines text.toList).map (fun line => String.ofList (expandTabs 0 line)) =
      plainLines text :=
    List.map_congr_left fun line hline => by
      rw [expandTabs_of_notMem fun htab => htabs (subset_of_mem_splitLines hline htab)]
  rw [cellLines, hrender]
  exact congrArg Except.ok hlines

theorem cellLines_of_unmarked (h : Unmarked markup.toList) :
    cellLines markup = .ok (plainLines markup) :=
  cellLines_of_render (render_of_unmarked h) fun htab => (h.controls _ htab).2 rfl

/-! ### Rows -/

/-- A row and the lines of its cells. -/
def ShowsCells (row : List String) (cells : List (List String)) : Prop :=
  List.Forall₂ (fun markup lines => cellLines markup = .ok lines) row cells

theorem ShowsCells.unique {row : List String} {cells cells' : List (List String)}
    (h : ShowsCells row cells) (h' : ShowsCells row cells') : cells = cells' :=
  List.right_unique_forall₂' (fun _ _ _ hb hc => Except.ok.inj (hb.symm.trans hc)) h h'

theorem ShowsCells.exists_lines {row : List String} {cells : List (List String)}
    (h : ShowsCells row cells) (hmarkup : markup ∈ row) :
    ∃ lines, cellLines markup = .ok lines := by
  induction h with
  | nil => cases hmarkup
  | cons hcell _ ih =>
    obtain rfl | hmarkup := List.mem_cons.1 hmarkup
    · exact ⟨_, hcell⟩
    · exact ih hmarkup

/-- Every row that is as wide as the header shows its cells. -/
theorem exists_rows_of_render (hwidth : ∀ row ∈ t.rows, row.length = t.header.length)
    (h : t.render = .ok shown) : t.header.mapM Console.render = .ok shown.header ∧
      ∃ rows, List.Forall₂ ShowsCells t.rows rows ∧ shown.lines = rows.flatMap rowLines := by
  obtain ⟨header, hheader, h⟩ := bind_eq_ok_iff.1 h
  obtain ⟨columns, hcolumns, h⟩ := bind_eq_ok_iff.1 h
  obtain ⟨title, -, h⟩ := bind_eq_ok_iff.1 h
  obtain rfl := Except.ok.inj h
  refine ⟨hheader, _, ?_, rfl⟩
  have hcolumns := mapM_eq_ok_iff.1 hcolumns
  have hcount : columns.length = t.header.length := by
    rw [← hcolumns.length_eq, List.length_range]
  refine List.forall₂_iff_get.2 ⟨by simp, fun j hj _ => ?_⟩
  have hrow : (t.rows.get ⟨j, hj⟩).length = columns.length :=
    (hwidth _ (t.rows.get_mem ⟨j, hj⟩)).trans hcount.symm
  simp only [List.get_eq_getElem] at hrow
  refine List.forall₂_iff_get.2 ⟨by simp [hrow], fun i hi hi' => ?_⟩
  simp only [List.get_eq_getElem, List.getElem_map, List.getElem_range, List.length_map] at hi hi' ⊢
  -- The cell of a row is the one in the column, at the position of the row.
  have hcolumn := hcolumns.get (i := i) (by simpa [← hcount] using hi') hi'
  have hcells := mapM_eq_ok_iff.1 hcolumn
  have hlength : j < (columns.get ⟨i, hi'⟩).length := by
    rw [← hcells.length_eq]
    simpa [column] using hj
  have hcell := hcells.get (i := j) (by simpa [column] using hj) hlength
  simp only [List.get_eq_getElem, column, List.getElem_map, List.getElem_range] at hcell
  rw [← List.getElem_eq_getD (h := hi)] at hcell
  exact hcell.trans (congrArg Except.ok (List.getElem_eq_getD []))

/-- A table is shown if its title, its header and its cells can be. -/
theorem exists_render (hwidth : ∀ row ∈ t.rows, row.length = t.header.length)
    (hheader : ∃ header, t.header.mapM Console.render = .ok header)
    (htitle : ∃ lines, cellLines t.title = .ok lines)
    (hrows : ∀ row ∈ t.rows, ∃ cells, ShowsCells row cells) :
    ∃ shown, t.render = .ok shown := by
  obtain ⟨header, hheader⟩ := hheader
  obtain ⟨lines, htitle⟩ := htitle
  have hcolumn : ∀ i ∈ List.range t.header.length, ∃ column,
      (t.column i).mapM cellLines = .ok column := by
    intro i hi
    refine exists_mapM (List.forall_mem_map.2 fun row hrow => ?_)
    obtain ⟨cells, hcells⟩ := hrows row hrow
    refine hcells.exists_lines ?_
    have hi : i < row.length := by
      rw [hwidth row hrow]
      exact List.mem_range.1 hi
    rw [← List.getElem_eq_getD (h := hi)]
    exact List.getElem_mem _
  obtain ⟨columns, hcolumns⟩ := exists_mapM hcolumn
  rw [render, hheader, hcolumns, htitle]
  exact ⟨_, rfl⟩

end Table

end PascalWorkspace.Console
