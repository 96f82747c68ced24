import TableShell.Proofs.SelectRows
import TableShell.Proofs.TableResults
import TableShell.Proofs.TextOrder

namespace TableShell

section Conditions

variable {titles : List String} {row : Row}

def Operand.Denotes (titles : List String) (row : Row) : Operand → String → Prop
  | .literal value, text => text = value
  | .column name, text => Row.Has titles row name text

/-- Both sides have a value in the row, and without the blanks around them the code points of these
stand in the order that is asked for. -/
def Condition.Satisfied (titles : List String) (row : Row) (c : Condition) : Prop :=
  ∃ left right, Row.Has titles row c.column left ∧ c.operand.Denotes titles row right ∧
    c.comparison.Admits (compare (Text.codes (Text.trim left)) (Text.codes (Text.trim right)))

variable (h : titles.Nodup) (hw : row.length = titles.length)

include h hw

theorem Operand.denotes_iff {operand : Operand} {text : String} :
    operand.Denotes titles row text ↔ operand.value? titles row = some text := by
  cases operand with
  | literal value => simp [Denotes, value?, eq_comm]
  | column name => exact Row.has_iff h hw

theorem Condition.holds_iff {c : Condition} : c.holds titles row ↔ c.Satisfied titles row := by
  simp only [Satisfied, Row.has_iff h hw, Operand.denotes_iff h hw, holds, ← Comparison.holds_iff]
  split
  · rename_i left right hleft hright
    simp [hleft, hright]
  · rename_i hnone
    simp only [Bool.false_eq_true, false_iff]
    rintro ⟨left, right, hleft, hright, -⟩
    exact hnone left right hleft hright

theorem Query.holds_iff {q : Query} :
    q.holds titles row ↔ ∀ c ∈ q.conditions, c.Satisfied titles row := by
  simp only [holds, List.all_eq_true, Condition.holds_iff h hw]

end Conditions

theorem Table.Valid.rows_of_select {source t : Table} {q : Query} (h : source.Valid)
    (hs : source.select q = .ok t) :
    t.titles = q.columns ∧ (∀ column ∈ q.columns, column ∈ source.titles) ∧
      t.rows = (source.selectedRows q).eraseDups := by
  obtain ⟨_, hresolve, hmade⟩ := exists_of_bind_eq_ok hs
  obtain ⟨start, hstart, -⟩ := exists_of_bind_eq_ok hmade
  obtain ⟨t', ht', -, htitles, hrows⟩ := h.select_eq_ok hresolve hstart
  obtain rfl : t' = t := by simpa [hs] using ht'.symm
  exact ⟨htitles, mem_titles_of_resolve hresolve, hrows⟩

namespace Database

variable {db : Database} {q : Query} {t : Table}

/-- The answer to a query over valid tables. It has the selected columns as its titles. Of the rows
of the one table, or of the join of the two, it has those that satisfy all conditions, in their
order and cut down to these columns, each where it is first found; and in order they ascend, by the
code points of their cells. -/
theorem value_of_select (hdb : db.Valid) (h : db.select q = .ok t) :
    ∃ source : Table, db.Over q source ∧ source.Valid ∧ t.titles = q.columns ∧
      ∃ kept picked : List Row, kept.Sublist source.rows ∧
        (∀ row ∈ source.rows,
          row ∈ kept ↔ ∀ c ∈ q.conditions, c.Satisfied source.titles row) ∧
        List.Forall₂ (fun row part => Row.Restricts source.titles row q.columns part) kept picked ∧
        t.rows = picked.eraseDups ∧
        t.sortedRows.Pairwise
          (fun a b => compare (a.map Text.codes) (b.map Text.codes) = .lt) ∧
        ∀ row, row ∈ t.sortedRows ↔ row ∈ picked := by
  obtain ⟨source, hover, hs⟩ := exists_over_of_select h
  have hv := hover.valid hdb
  obtain ⟨htitles, hcolumns, hrows⟩ := hv.rows_of_select hs
  have ht := Table.valid_select hs
  refine ⟨source, hover, hv, htitles, source.rows.filter (q.holds source.titles),
    source.selectedRows q, List.filter_sublist, fun row hr => ?_, ?_, hrows, ?_, fun row => ?_⟩
  · rw [List.mem_filter, Query.holds_iff hv.titles_nodup (hv.width_eq row hr)]
    exact and_iff_right hr
  · rw [Table.selectedRows, List.forall₂_map_right_iff, List.forall₂_same]
    intro row hr
    have hw := hv.width_eq row (List.mem_filter.mp hr).1
    exact (Row.restricts_iff hv.titles_nodup hw hcolumns).mpr rfl
  · simpa only [Row.compare_codes] using ht.ascending
  · rw [(Table.sortedRows_perm ht.index_perm).mem_iff, hrows, List.mem_eraseDups]

/-- The titles are found in the join, and each answer is found twice. Of the two rows that end in
` z` one is kept and one is not, as if there were no blank before the `z`. -/
theorem value_of_select_over_join :
    let left : Table :=
      ⟨["a", "b"], [["z", "1"], ["x", "2"], ["y", "1"], ["x", "1"]], [3, 1, 2, 0]⟩
    let right : Table := ⟨["b", "c"], [["2", "y"], ["1", "y"], ["1", " z"]], [2, 1, 0]⟩
    let db := (Database.empty.put "l" left).put "r" right
    let q : Query := ⟨["c"], ["l", "r"], [⟨"a", .less, .column "c"⟩]⟩
    let t : Table := ⟨["c"], [["y"], [" z"]], [1, 0]⟩
    db.Valid ∧ db.select q = .ok t ∧ ∃ (source : Table) (kept picked : List Row),
      left.join right = .ok source ∧ kept.Sublist source.rows ∧
      (["y", "1", " z"] ∈ kept ∧ ["z", "1", " z"] ∈ source.rows ∧ ["z", "1", " z"] ∉ kept) ∧
      List.Forall₂ (fun row part => Row.Restricts source.titles row ["c"] part) kept picked ∧
      picked.eraseDups = [["y"], [" z"]] := by
  intro left right db q t
  have hl : left.Valid := by constructor <;> decide
  have hr : right.Valid := by constructor <;> decide
  have hdb : db.Valid := ((all_empty _).put hl).put hr
  have hselect : db.select q = .ok t := by decide +kernel
  have hleft : db.get? "l" = some left := by simp [db, get?_put]
  have hright : db.get? "r" = some right := by simp [db, get?_put]
  let rows : List Row :=
    [["z", "1", "y"], ["z", "1", " z"], ["x", "2", "y"], ["y", "1", "y"], ["y", "1", " z"],
      ["x", "1", "y"], ["x", "1", " z"]]
  have hjoin : left.join right = .ok ⟨["a", "b", "c"], rows, [6, 5, 2, 4, 3, 1, 0]⟩ := by
    decide +kernel
  obtain ⟨source, hover, -, -, kept, picked, hsub, hkept, hpicked, hrows, -, -⟩ :=
    value_of_select hdb hselect
  obtain rfl : ⟨["a", "b", "c"], rows, [6, 5, 2, 4, 3, 1, 0]⟩ = source := by
    cases hover with
    | one tables_eq => cases tables_eq
    | two tables_eq found_left found_right joined =>
      cases tables_eq
      cases hleft.symm.trans found_left
      cases hright.symm.trans found_right
      exact Except.ok.inj (hjoin.symm.trans joined)
  have hwidth : ∀ row ∈ rows, row.length = 3 := by decide
  have hless : ∀ row ∈ rows, row ∈ kept ↔
      Condition.holds ["a", "b", "c"] row ⟨"a", .less, .column "c"⟩ = true := by
    intro row hm
    rw [hkept row hm, Condition.holds_iff (by decide) (hwidth row hm)]
    exact List.forall_mem_singleton
  have hy : ["y", "1", " z"] ∈ kept := (hless _ (by decide)).mpr (by decide +kernel)
  have hz : ["z", "1", " z"] ∉ kept := fun hm =>
    absurd ((hless _ (by decide)).mp hm) (by decide +kernel)
  exact ⟨hdb, hselect, _, kept, picked, hjoin, hsub, ⟨hy, by decide, hz⟩, hpicked, hrows.symm⟩

end Database

end TableShell
