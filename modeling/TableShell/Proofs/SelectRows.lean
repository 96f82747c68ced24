import TableShell.Proofs.RowCells
import TableShell.Proofs.TableIndex
import TableShell.Table.Select

namespace TableShell

theorem Row.length_select {titles columns : List String} {row : Row}
    (hw : row.length = titles.length) (h : ∀ column ∈ columns, column ∈ titles) :
    (select titles row columns).length = columns.length := by
  rw [select, List.length_filterMap_eq_countP, List.countP_eq_length]
  intro column hc
  obtain ⟨cell, hcell⟩ := exists_cell?_of_mem hw (h column hc)
  rw [hcell]
  rfl

def Condition.Known (titles : List String) (c : Condition) : Prop :=
  ∀ column ∈ c.columns, column ∈ titles

theorem Query.known_iff {q : Query} {titles : List String} :
    (∀ column ∈ q.allColumns, column ∈ titles) ↔
      (∀ column ∈ q.columns, column ∈ titles) ∧ ∀ c ∈ q.conditions, c.Known titles := by
  simp only [allColumns, List.forall_mem_append, List.forall_mem_flatMap, Condition.Known]

section Cells

variable {titles titles' columns : List String} {row row' : Row} {column : String}

theorem Row.cell?_select (hw : row.length = titles.length)
    (h : ∀ column ∈ columns, column ∈ titles) (hc : column ∈ columns) :
    cell? columns (select titles row columns) column = cell? titles row column := by
  induction columns with
  | nil => cases hc
  | cons first rest ih =>
    obtain ⟨hfirst, hrest⟩ := List.forall_mem_cons.mp h
    obtain ⟨cell, hcell⟩ := exists_cell?_of_mem hw hfirst
    rw [select, List.filterMap_cons_some hcell, cell?, List.zip_cons_cons, List.lookup_cons]
    by_cases he : column = first
    · subst he
      simp [hcell]
    · have hb : (column == first) = false := by simpa using he
      rw [hb]
      exact ih hrest ((List.mem_cons.mp hc).resolve_left he)

theorem Row.select_congr
    (h : ∀ column ∈ columns, cell? titles row column = cell? titles' row' column) :
    select titles row columns = select titles' row' columns :=
  List.filterMap_congr h

theorem Condition.holds_congr {c : Condition}
    (h : ∀ column ∈ c.columns, Row.cell? titles row column = Row.cell? titles' row' column) :
    c.holds titles row = c.holds titles' row' := by
  have hleft : Row.cell? titles row c.column = Row.cell? titles' row' c.column := by
    apply h
    simp [columns]
  have hright : c.operand.value? titles row = c.operand.value? titles' row' := by
    cases ho : c.operand with
    | literal value => rfl
    | column name =>
      apply h
      simp [columns, ho, Operand.columns]
  rw [holds, holds, hleft, hright]

theorem Query.holds_congr {q : Query}
    (h : ∀ c ∈ q.conditions, ∀ column ∈ c.columns,
      Row.cell? titles row column = Row.cell? titles' row' column) :
    q.holds titles row = q.holds titles' row' := by
  rw [holds, holds, Bool.eq_iff_iff, List.all_eq_true, List.all_eq_true]
  apply forall₂_congr
  intro c hc
  rw [Condition.holds_congr (h c hc)]

end Cells

namespace Table

variable {t start : Table} {q : Query}

theorem allColumns_of_resolve {u : Unit} (h : t.resolve q = .ok u) :
    ∀ column ∈ q.allColumns, column ∈ t.titles := by
  rw [resolve] at h
  split at h
  · cases h
  · rename_i hnone
    simpa using List.find?_eq_none.mp hnone

theorem mem_titles_of_resolve {u : Unit} (h : t.resolve q = .ok u) :
    ∀ column ∈ q.columns, column ∈ t.titles :=
  fun column hc => allColumns_of_resolve h column (List.mem_append_left _ hc)

theorem resolve_of_mem_titles (h : ∀ column ∈ q.allColumns, column ∈ t.titles) :
    t.resolve q = .ok () := by
  have hnone : q.allColumns.find? (· ∉ t.titles) = none := by
    rw [List.find?_eq_none]
    intro column hc
    simpa using h column hc
  rw [resolve, hnone]

def selectedRows (t : Table) (q : Query) : List Row :=
  (t.rows.filter (q.holds t.titles)).map fun row => Row.select t.titles row q.columns

theorem mem_selectedRows {row : Row} :
    row ∈ t.selectedRows q ↔
      ∃ source ∈ t.rows, q.holds t.titles source ∧ Row.select t.titles source q.columns = row := by
  simp [selectedRows, and_assoc]

/-- Nothing else matters to a query than which columns are found, and which rows are selected. -/
theorem select_congr {t' : Table} {q' : Query} (hresolve : t.resolve q = t'.resolve q')
    (hcolumns : q.columns = q'.columns) (hrows : t.selectedRows q = t'.selectedRows q') :
    t.select q = t'.select q' := by
  change (t.resolve q >>= fun _ => ofTitles q.columns >>= fun start =>
    start.insertAll (t.selectedRows q)) = _
  rw [hresolve, hcolumns, hrows]
  rfl

theorem length_of_mem_selectedRows (h : t.Valid) (hr : t.resolve q = .ok ()) :
    ∀ row ∈ t.selectedRows q, row.length = q.columns.length := by
  intro row hrow
  obtain ⟨source, hs, -, rfl⟩ := mem_selectedRows.mp hrow
  exact Row.length_select (h.width_eq source hs) (mem_titles_of_resolve hr)

/-- A query fails for its columns or not at all. Each row of the answer stands where it is first
found. -/
theorem Valid.select_eq_ok (h : t.Valid) (hr : t.resolve q = .ok ())
    (hc : ofTitles q.columns = .ok start) :
    ∃ t', t.select q = .ok t' ∧ t'.Valid ∧ t'.titles = q.columns ∧
      t'.rows = (t.selectedRows q).eraseDups := by
  obtain ⟨htitles, hrows⟩ := titles_of_ofTitles hc
  have hwidth : ∀ row ∈ t.selectedRows q, row.length = start.width := by
    rw [width, htitles]
    exact length_of_mem_selectedRows h hr
  obtain ⟨t', ht', hv, htitles', hrows'⟩ := (valid_ofTitles hc).insertAll_eq_ok hwidth
  refine ⟨t', ?_, hv, htitles'.trans htitles, ?_⟩
  · rw [Table.select, hr, hc]
    exact ht'
  · rw [hrows', hrows, List.nil_append]

end Table

end TableShell
