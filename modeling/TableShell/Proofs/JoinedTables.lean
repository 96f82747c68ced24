import TableShell.Proofs.JoinRows
import TableShell.Proofs.SelectRows

namespace TableShell

namespace Table

variable {t left right : Table} {l r row : Row} {rows : List Row}

def TakesAll (t : Table) : List Row → Prop
  | [] => True
  | row :: rest => ∃ t', t.insert row = .ok (true, t') ∧ t'.TakesAll rest

theorem Valid.insert_of_not_mem (h : t.Valid) (hw : row.length = t.width) (hn : row ∉ t.rows) :
    ∃ t', t.insert row = .ok (true, t') ∧ t'.titles = t.titles ∧ t'.rows = t.rows ++ [row] := by
  cases hr : rank? t.rows row t.index with
  | none => exact absurd (h.rank?_eq_none_iff.mp hr) hn
  | some rank => exact ⟨_, insert_of_rank? hw hr, rfl, rfl⟩

theorem Valid.takesAll (h : t.Valid) (hw : ∀ row ∈ rows, row.length = t.width)
    (hn : (t.rows ++ rows).Nodup) : t.TakesAll rows := by
  induction rows generalizing t with
  | nil => trivial
  | cons row rest ih =>
    obtain ⟨hrow, hrest⟩ := List.forall_mem_cons.mp hw
    have hnew : row ∉ t.rows := fun hm =>
      (List.nodup_append.mp hn).2.2 row hm row List.mem_cons_self rfl
    obtain ⟨t', hi, htitles, hrows⟩ := h.insert_of_not_mem hrow hnew
    refine ⟨t', hi, ih (h.insert hi) ?_ ?_⟩
    · rw [width, htitles]
      exact hrest
    · rw [hrows, List.append_assoc, List.singleton_append]
      exact hn

/-- The rows have the same cell under each title that both tables have. -/
def Match (left right : Table) (l r : Row) : Prop :=
  ∀ title cell cell', Row.Has left.titles l title cell → Row.Has right.titles r title cell' →
    cell = cell'

theorem agree_iff_match (hl : left.titles.Nodup) (hr : right.titles.Nodup)
    (hlw : l.length = left.width) (hrw : r.length = right.width) :
    agree left right l r ↔ Match left right l r := by
  rw [agree_iff hr hrw]
  simp only [Compatible, Match, Row.has_iff hl hlw, Row.has_iff hr hrw]

/-- The positions of the rows that match, gone through as the join does. -/
def places (left right : Table) : List (Nat × Nat) :=
  (List.range left.size).flatMap fun i =>
    ((List.range right.size).filter fun j =>
      agree left right (rowAt left.rows i) (rowAt right.rows j)).map (i, ·)

theorem places_ascending (left right : Table) :
    (places left right).Pairwise (Prod.Lex (· < ·) (· < ·)) := by
  rw [places, List.pairwise_flatMap]
  constructor
  · intro i _
    rw [List.pairwise_map]
    exact (List.pairwise_lt_range.filter _).imp fun h => .right _ h
  · apply List.pairwise_lt_range.imp
    intro i i' hi place hp place' hp'
    obtain ⟨j, -, rfl⟩ := List.mem_map.mp hp
    obtain ⟨j', -, rfl⟩ := List.mem_map.mp hp'
    exact .left _ _ hi

theorem mem_places (hl : left.Valid) (hr : right.Valid) {i j : Nat} :
    (i, j) ∈ places left right ↔
      i < left.size ∧ j < right.size ∧ Match left right (rowAt left.rows i) (rowAt right.rows j) := by
  have hagree : i < left.size → j < right.size →
      (agree left right (rowAt left.rows i) (rowAt right.rows j) = true ↔
        Match left right (rowAt left.rows i) (rowAt right.rows j)) := fun hi hj =>
    agree_iff_match hl.titles_nodup hr.titles_nodup (hl.length_rowAt hi) (hr.length_rowAt hj)
  simp only [places, List.mem_flatMap, List.mem_map, List.mem_filter, List.mem_range, Prod.mk.injEq]
  constructor
  · rintro ⟨i, hi, j, ⟨hj, h⟩, rfl, rfl⟩
    exact ⟨hi, hj, (hagree hi hj).mp h⟩
  · rintro ⟨hi, hj, h⟩
    exact ⟨i, hi, j, ⟨hj, (hagree hi hj).mpr h⟩, rfl, rfl⟩

theorem joinedRows_eq (left right : Table) :
    joinedRows left right =
      (places left right).map fun place =>
        combine left right (rowAt left.rows place.1) (rowAt right.rows place.2) := by
  calc joinedRows left right
      = ((List.range left.size).map (rowAt left.rows)).flatMap fun l =>
          (((List.range right.size).map (rowAt right.rows)).filter (agree left right l)).map
            (combine left right l) := by
        rw [size, size, map_rowAt_range, map_rowAt_range, joinedRows]
    _ = _ := by
        rw [List.flatMap_map, places, List.map_flatMap]
        simp only [List.filter_map, List.map_map]
        rfl

section Restrictions

variable (hl : left.titles.Nodup) (hr : right.titles.Nodup) (hlw : l.length = left.width)
  (hrw : r.length = right.width)

include hl hr hlw hrw

theorem restricts_combine (h : agree left right l r) :
    Row.Restricts (left.titles ++ ownTitles left right) (combine left right l r) left.titles l ∧
      Row.Restricts (left.titles ++ ownTitles left right) (combine left right l r) right.titles
        r := by
  have hn := nodup_joinedTitles hl hr
  have hw := length_combine hlw hrw
  rw [Row.restricts_iff hn hw fun _ ht => mem_joinedTitles.mpr (.inl ht),
    Row.restricts_iff hn hw fun _ ht => mem_joinedTitles.mpr (.inr ht)]
  constructor
  · exact (Row.select_congr fun title ht => cell?_combine_left hlw hrw ht).trans
      (Row.select_self hl hlw)
  · exact (Row.select_congr fun title ht => cell?_combine_right hr hlw hrw h ht).trans
      (Row.select_self hr hrw)

theorem eq_combine_of_restricts (hw : row.length = (left.titles ++ ownTitles left right).length)
    (hrl : Row.Restricts (left.titles ++ ownTitles left right) row left.titles l)
    (hrr : Row.Restricts (left.titles ++ ownTitles left right) row right.titles r) :
    agree left right l r ∧ combine left right l r = row := by
  have hn := nodup_joinedTitles hl hr
  have hleft : ∀ title ∈ left.titles, title ∈ left.titles ++ ownTitles left right :=
    fun _ ht => mem_joinedTitles.mpr (.inl ht)
  have hright : ∀ title ∈ right.titles, title ∈ left.titles ++ ownTitles left right :=
    fun _ ht => mem_joinedTitles.mpr (.inr ht)
  rw [Row.restricts_iff hn hw hleft] at hrl
  rw [Row.restricts_iff hn hw hright] at hrr
  have hcl : ∀ title ∈ left.titles, Row.cell? left.titles l title =
      Row.cell? (left.titles ++ ownTitles left right) row title := by
    intro title ht
    rw [← hrl, Row.cell?_select hw hleft ht]
  have hcr : ∀ title ∈ right.titles, Row.cell? right.titles r title =
      Row.cell? (left.titles ++ ownTitles left right) row title := by
    intro title ht
    rw [← hrr, Row.cell?_select hw hright ht]
  constructor
  · rw [agree_iff_shared hr hlw hrw]
    intro title htl htr
    rw [hcl title htl, hcr title htr]
  · apply Row.eq_of_cell? hn (length_combine hlw hrw) hw
    intro title ht
    rw [cell?_combine hlw hrw]
    cases hx : Row.cell? left.titles l title with
    | some x => rw [Option.some_or, ← hx, hcl title (Row.mem_of_cell? hx).1]
    | none =>
      have hm : title ∈ right.titles := by
        refine (mem_joinedTitles.mp ht).resolve_left fun hm => ?_
        obtain ⟨x, hsome⟩ := Row.exists_cell?_of_mem hlw hm
        rw [hx] at hsome
        cases hsome
      rw [Option.none_or, hcr title hm]

end Restrictions

theorem Valid.mem_joinedRows_iff (hl : left.Valid) (hr : right.Valid)
    (hw : row.length = (left.titles ++ ownTitles left right).length) :
    row ∈ joinedRows left right ↔
      (∃ l ∈ left.rows,
        Row.Restricts (left.titles ++ ownTitles left right) row left.titles l) ∧
      ∃ r ∈ right.rows,
        Row.Restricts (left.titles ++ ownTitles left right) row right.titles r := by
  rw [mem_joinedRows]
  constructor
  · rintro ⟨l, hlm, r, hrm, hagree, rfl⟩
    obtain ⟨hrl, hrr⟩ := restricts_combine hl.titles_nodup hr.titles_nodup (hl.width_eq l hlm)
      (hr.width_eq r hrm) hagree
    exact ⟨⟨l, hlm, hrl⟩, r, hrm, hrr⟩
  · rintro ⟨⟨l, hlm, hrl⟩, r, hrm, hrr⟩
    exact ⟨l, hlm, r, hrm, eq_combine_of_restricts hl.titles_nodup hr.titles_nodup
      (hl.width_eq l hlm) (hr.width_eq r hrm) hw hrl hrr⟩

theorem Valid.joinedRows_at_places (hl : left.Valid) (hr : right.Valid) :
    List.Forall₂ (fun place row =>
      Row.Restricts (left.titles ++ ownTitles left right) row left.titles
          (rowAt left.rows place.1) ∧
        Row.Restricts (left.titles ++ ownTitles left right) row right.titles
          (rowAt right.rows place.2)) (places left right) (joinedRows left right) := by
  rw [joinedRows_eq, List.forall₂_map_right_iff, List.forall₂_same]
  rintro ⟨i, j⟩ hp
  obtain ⟨hi, hj, hmatch⟩ := (mem_places hl hr).mp hp
  have hlw := hl.length_rowAt hi
  have hrw := hr.length_rowAt hj
  rw [← agree_iff_match hl.titles_nodup hr.titles_nodup hlw hrw] at hmatch
  exact restricts_combine hl.titles_nodup hr.titles_nodup hlw hrw hmatch

/-- The join of valid tables is the natural join. It has the titles of `left` and then those of
`right` that `left` lacks. A row over these titles is in it when what it has under the titles of
either table is a row of that table. Its rows stand in the order of the positions of the two rows
they restrict to, one for each two rows that match; so each row that is added is new, and there are
as many rows as there are matches. -/
theorem Valid.natural_join (hl : left.Valid) (hr : right.Valid) :
    ∃ t, left.join right = .ok t ∧ t.Valid ∧
      t.titles = left.titles ++ right.titles.filter (· ∉ left.titles) ∧
      (∀ row, row.length = t.width → (row ∈ t.rows ↔
        (∃ l ∈ left.rows, Row.Restricts t.titles row left.titles l) ∧
          ∃ r ∈ right.rows, Row.Restricts t.titles row right.titles r)) ∧
      (∃ places : List (Nat × Nat), places.Pairwise (Prod.Lex (· < ·) (· < ·)) ∧
        (∀ i j, (i, j) ∈ places ↔ i < left.size ∧ j < right.size ∧
          Match left right (rowAt left.rows i) (rowAt right.rows j)) ∧
        List.Forall₂ (fun place row =>
          Row.Restricts t.titles row left.titles (rowAt left.rows place.1) ∧
            Row.Restricts t.titles row right.titles (rowAt right.rows place.2)) places t.rows ∧
        t.size = places.length) ∧
      ∃ start, ofTitles t.titles = .ok start ∧ start.insertAll (joinedRows left right) = .ok t ∧
        start.TakesAll (joinedRows left right) := by
  obtain ⟨t, ht, hv, htitles, hrows⟩ := hl.join_eq_ok hr
  have hstart := ofTitles_of_nodup hv.titles_ne_nil hv.titles_nodup
  refine ⟨t, ht, hv, htitles, fun row hw => ?_, ?_, _, hstart, ?_, ?_⟩
  · rw [width, htitles] at hw
    rw [hrows, htitles]
    exact hl.mem_joinedRows_iff hr hw
  · have hplaces := hl.joinedRows_at_places hr
    rw [← htitles, ← hrows] at hplaces
    exact ⟨places left right, places_ascending left right, fun i j => mem_places hl hr, hplaces,
      hplaces.length_eq.symm⟩
  · rw [Table.join, ← htitles, hstart] at ht
    exact ht
  · apply (valid_ofTitles hstart).takesAll
    · rw [← hrows]
      exact hv.width_eq
    · exact hl.nodup_joinedRows hr

theorem Valid.natural_join_of_shared_title :
    let left : Table := ⟨["a", "b"], [["z", "1"], ["x", "2"], ["y", "1"]], [1, 2, 0]⟩
    let right : Table := ⟨["b", "c"], [["2", "w"], ["1", "y"], ["1", "x"]], [2, 1, 0]⟩
    (left.Valid ∧ right.Valid) ∧ ∃ t, left.join right = .ok t ∧ t.titles = ["a", "b", "c"] ∧
      ["z", "1", "y"] ∈ t.rows := by
  intro left right
  have hl : left.Valid := by constructor <;> decide
  have hr : right.Valid := by constructor <;> decide
  obtain ⟨t, ht, -, htitles, hmem, -, -⟩ := hl.natural_join hr
  have hown : t.titles = ["a", "b", "c"] := htitles.trans (by decide)
  refine ⟨⟨hl, hr⟩, t, ht, hown, ?_⟩
  rw [hmem _ (by rw [width, hown]; rfl), hown]
  refine ⟨⟨["z", "1"], by decide, ?_⟩, ["1", "y"], by decide, ?_⟩
  · exact .cons ⟨0, rfl, rfl⟩ (.cons ⟨1, rfl, rfl⟩ .nil)
  · exact .cons ⟨1, rfl, rfl⟩ (.cons ⟨2, rfl, rfl⟩ .nil)

end Table

end TableShell
