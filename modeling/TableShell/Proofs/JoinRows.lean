import TableShell.Proofs.RowCells
import TableShell.Proofs.TableIndex
import TableShell.Table.Join

namespace TableShell.Table

variable {left left' right right' : Table} {l r r' : Row} {title : String}

section Titles

variable (hl : left.titles = left'.titles) (hr : right.titles = right'.titles)

include hl hr

theorem ownTitles_congr : ownTitles left right = ownTitles left' right' := by
  rw [ownTitles, ownTitles, hl, hr]

theorem agree_congr : agree left right = agree left' right' := by
  funext l r
  rw [agree, agree, hl, hr]

theorem combine_congr : combine left right = combine left' right' := by
  funext l r
  rw [combine, combine, hl, hr]

end Titles

def ownColumns (left right : Table) (r : Row) : List (String × String) :=
  (right.titles.zip r).filter (fun column => column.1 ∉ left.titles)

theorem combine_eq (left right : Table) (l r : Row) :
    combine left right l r = l ++ (ownColumns left right r).map Prod.snd := rfl

theorem mem_ownTitles :
    title ∈ ownTitles left right ↔ title ∈ right.titles ∧ title ∉ left.titles := by
  simp [ownTitles]

theorem map_fst_ownColumns (hr : r.length = right.width) :
    (ownColumns left right r).map Prod.fst = ownTitles left right := by
  rw [ownTitles, ← Row.map_fst_zip hr, List.filter_map]
  rfl

theorem zip_ownColumns (hr : r.length = right.width) :
    (ownTitles left right).zip ((ownColumns left right r).map Prod.snd) =
      ownColumns left right r := by
  rw [← map_fst_ownColumns hr]
  exact (List.zip_of_prod rfl rfl).symm

theorem length_combine (hl : l.length = left.width) (hr : r.length = right.width) :
    (combine left right l r).length = (left.titles ++ ownTitles left right).length := by
  rw [combine_eq, ← map_fst_ownColumns hr]
  simp [hl, width]

theorem lookup_filter {columns : List (String × String)} {p : String → Bool} (h : p title) :
    (columns.filter (fun column => p column.1)).lookup title = columns.lookup title := by
  induction columns with
  | nil => rfl
  | cons column rest ih =>
    obtain ⟨other, cell⟩ := column
    by_cases ho : title = other
    · subst ho
      simp [h]
    · have hb : (title == other) = false := by simpa using ho
      by_cases hp : p other <;> simp [hp, hb, List.lookup_cons, ih]

theorem cell?_combine (hl : l.length = left.width) (hr : r.length = right.width) (title : String) :
    Row.cell? (left.titles ++ ownTitles left right) (combine left right l r) title =
      (Row.cell? left.titles l title).or (Row.cell? right.titles r title) := by
  rw [combine_eq, Row.cell?, List.zip_append hl.symm, List.lookup_append, zip_ownColumns hr]
  by_cases h : title ∈ left.titles
  · obtain ⟨cell, hc⟩ := Row.exists_cell?_of_mem hl h
    rw [hc, Option.some_or]
    exact Option.or_of_isSome (by rw [← Row.cell?, hc]; rfl) |>.trans hc
  · have hown : decide (title ∉ left.titles) = true := by simpa using h
    rw [ownColumns, lookup_filter (p := fun title => decide (title ∉ left.titles)) hown]
    rfl

theorem cell?_combine_left (hl : l.length = left.width) (hr : r.length = right.width)
    (ht : title ∈ left.titles) :
    Row.cell? (left.titles ++ ownTitles left right) (combine left right l r) title =
      Row.cell? left.titles l title := by
  obtain ⟨x, hx⟩ := Row.exists_cell?_of_mem hl ht
  rw [cell?_combine hl hr, hx, Option.some_or]

/-- Two cells under one title, either of which may be missing, do not contradict each other. -/
def Compatible (x y : Option String) : Prop :=
  ∀ cell cell', x = some cell → y = some cell' → cell = cell'

@[simp]
theorem compatible_none_left (y : Option String) : Compatible none y := by
  intro _ _ h
  cases h

@[simp]
theorem compatible_none_right (x : Option String) : Compatible x none := by
  intro _ _ _ h
  cases h

@[simp]
theorem compatible_some {x y : String} : Compatible (some x) (some y) ↔ x = y := by
  simp [Compatible]

theorem agree_iff (h : right.titles.Nodup) (hr : r.length = right.width) :
    agree left right l r ↔ ∀ title,
      Compatible (Row.cell? left.titles l title) (Row.cell? right.titles r title) := by
  rw [agree, List.all_eq_true]
  constructor
  · intro hall title x y hx hy
    have hcolumn := hall _ ((Row.cell?_eq_some_iff h hr).mp hy)
    simpa [hx] using hcolumn
  · rintro hall ⟨title, y⟩ hc
    have hy := (Row.cell?_eq_some_iff h hr).mpr hc
    cases hx : Row.cell? left.titles l title with
    | none => simp
    | some x => simpa [hx] using hall title x y hx hy

theorem agree_iff_shared (h : right.titles.Nodup) (hl : l.length = left.width)
    (hr : r.length = right.width) :
    agree left right l r ↔ ∀ title ∈ left.titles, title ∈ right.titles →
      Row.cell? left.titles l title = Row.cell? right.titles r title := by
  rw [agree_iff h hr]
  constructor
  · intro hagree title htl htr
    obtain ⟨x, hx⟩ := Row.exists_cell?_of_mem hl htl
    obtain ⟨y, hy⟩ := Row.exists_cell?_of_mem hr htr
    rw [hx, hy, hagree title x y hx hy]
  · intro hall title x y hx hy
    rw [← Option.some_inj, ← hx, ← hy]
    exact hall title (Row.mem_of_cell? hx).1 (Row.mem_of_cell? hy).1

/-- Under a title that both have it is the cell of `left` that stands in the combination, and a row
that agrees has the same one. -/
theorem cell?_combine_right (hn : right.titles.Nodup) (hl : l.length = left.width)
    (hr : r.length = right.width) (h : agree left right l r) (ht : title ∈ right.titles) :
    Row.cell? (left.titles ++ ownTitles left right) (combine left right l r) title =
      Row.cell? right.titles r title := by
  rw [agree_iff hn hr] at h
  obtain ⟨y, hy⟩ := Row.exists_cell?_of_mem hr ht
  rw [cell?_combine hl hr, hy]
  cases hx : Row.cell? left.titles l title with
  | none => rfl
  | some x => rw [Option.some_or, h title x y hx hy]

theorem eq_of_combine_eq (hn : right.titles.Nodup) (hl : l.length = left.width)
    (hr : r.length = right.width) (hr' : r'.length = right.width) (h : agree left right l r)
    (h' : agree left right l r') (he : combine left right l r = combine left right l r') :
    r = r' := by
  apply Row.eq_of_cell? hn hr hr'
  intro title ht
  rw [← cell?_combine_right hn hl hr h ht, he, cell?_combine_right hn hl hr' h' ht]

/-- The combinations of rows that agree, in the order of the rows of `left`, and then of `right`. -/
def joinedRows (left right : Table) : List Row :=
  left.rows.flatMap fun l => (right.rows.filter (agree left right l)).map (combine left right l)

theorem mem_joinedRows {row : Row} :
    row ∈ joinedRows left right ↔
      ∃ l ∈ left.rows, ∃ r ∈ right.rows, agree left right l r ∧ combine left right l r = row := by
  simp [joinedRows, and_assoc]

theorem filter_joinedRows (p : Row → Bool) :
    (joinedRows left right).filter p = left.rows.flatMap fun l =>
      (right.rows.filter fun r => p (combine left right l r) && agree left right l r).map
        (combine left right l) := by
  rw [joinedRows, List.filter_flatMap]
  apply List.flatMap_congr
  intro l _
  rw [List.filter_map, List.filter_filter]
  rfl

theorem mem_joinedTitles :
    title ∈ left.titles ++ ownTitles left right ↔ title ∈ left.titles ∨ title ∈ right.titles := by
  rw [List.mem_append, mem_ownTitles]
  by_cases h : title ∈ left.titles
  · simp [h]
  · simp [h]

theorem nodup_joinedTitles (hl : left.titles.Nodup) (hr : right.titles.Nodup) :
    (left.titles ++ ownTitles left right).Nodup := by
  rw [List.nodup_append]
  refine ⟨hl, hr.filter _, ?_⟩
  rintro title ht other ho rfl
  exact (mem_ownTitles.mp ho).2 ht

theorem Valid.nodup_joinedRows (hl : left.Valid) (hr : right.Valid) :
    (joinedRows left right).Nodup := by
  rw [joinedRows, List.Nodup, List.pairwise_flatMap]
  constructor
  · intro l hlm
    rw [List.pairwise_map, List.pairwise_filter]
    apply hr.rows_nodup.imp_of_mem
    intro r r' hrm hrm' hne h h' he
    exact hne (eq_of_combine_eq hr.titles_nodup (hl.width_eq l hlm) (hr.width_eq r hrm)
      (hr.width_eq r' hrm') h h' he)
  · -- the row of `left` stands in front of the combination
    apply hl.rows_nodup.imp_of_mem
    rintro l l' hlm hlm' hne row hrow row' hrow' rfl
    obtain ⟨r, -, rfl⟩ := List.mem_map.mp hrow
    obtain ⟨r', -, he⟩ := List.mem_map.mp hrow'
    have hlen : l'.length = l.length := (hl.width_eq l' hlm').trans (hl.width_eq l hlm).symm
    exact hne (List.append_inj he hlen).1.symm

/-- Valid tables can be joined, and every combination is a row of the join. -/
theorem Valid.join_eq_ok (hl : left.Valid) (hr : right.Valid) :
    ∃ t, left.join right = .ok t ∧ t.Valid ∧ t.titles = left.titles ++ ownTitles left right ∧
      t.rows = joinedRows left right := by
  have hne : left.titles ++ ownTitles left right ≠ [] :=
    List.append_ne_nil_of_left_ne_nil hl.titles_ne_nil _
  have hstart := ofTitles_of_nodup hne (nodup_joinedTitles hl.titles_nodup hr.titles_nodup)
  have hwidth : ∀ row ∈ joinedRows left right,
      row.length = (left.titles ++ ownTitles left right).length := by
    intro row hrow
    obtain ⟨l, hlm, r, hrm, -, rfl⟩ := mem_joinedRows.mp hrow
    exact length_combine (hl.width_eq l hlm) (hr.width_eq r hrm)
  obtain ⟨t, ht, hv, htitles, hrows⟩ := (valid_ofTitles hstart).insertAll_eq_ok hwidth
  refine ⟨t, ?_, hv, htitles, ?_⟩
  · rw [Table.join, hstart]
    exact ht
  · rw [hrows, List.nil_append, eraseDups_of_nodup (hl.nodup_joinedRows hr)]

end TableShell.Table
