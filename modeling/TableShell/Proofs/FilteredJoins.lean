import TableShell.Proofs.JoinAssociativity
import TableShell.Proofs.SelectRows

namespace TableShell.Table

/-- The rows for which the conditions hold, under all titles. Which tables a query names does not
matter once there is a table to select from. -/
def filter (t : Table) (conditions : List Condition) : Except Fault Table :=
  t.select ⟨t.titles, [], conditions⟩

def keptRows (t : Table) (conditions : List Condition) : List Row :=
  t.rows.filter fun row => conditions.all (Condition.holds t.titles row)

variable {a b fa fb ab : Table} {l r : Row} {conditions : List Condition}

theorem Valid.filter_eq_ok {t : Table} (h : t.Valid)
    (hc : ∀ c ∈ conditions, ∀ column ∈ c.columns, column ∈ t.titles) :
    ∃ t', t.filter conditions = .ok t' ∧ t'.Valid ∧ t'.titles = t.titles ∧
      t'.rows = t.keptRows conditions := by
  have hresolve : t.resolve ⟨t.titles, [], conditions⟩ = .ok () :=
    resolve_of_mem_titles (Query.known_iff.mpr ⟨fun _ hm => hm, hc⟩)
  obtain ⟨t', ht', hv, htitles, hrows⟩ :=
    h.select_eq_ok hresolve (ofTitles_of_nodup h.titles_ne_nil h.titles_nodup)
  refine ⟨t', ht', hv, htitles, ?_⟩
  have hkept : t.selectedRows ⟨t.titles, [], conditions⟩ = t.keptRows conditions := by
    rw [selectedRows]
    calc (t.keptRows conditions).map (fun row => Row.select t.titles row t.titles)
        = (t.keptRows conditions).map id := by
          apply List.map_congr_left
          intro row hrow
          exact Row.select_self h.titles_nodup (h.width_eq row (List.mem_filter.mp hrow).1)
      _ = t.keptRows conditions := List.map_id _
  have hnodup : (t.keptRows conditions).Nodup := h.rows_nodup.filter _
  rw [hrows, hkept, eraseDups_of_nodup hnodup]

section Combinations

variable (hl : l.length = a.width) (hr : r.length = b.width)

include hl hr

theorem holds_combine_left (hc : ∀ c ∈ conditions, ∀ column ∈ c.columns, column ∈ a.titles) :
    conditions.all (Condition.holds (a.titles ++ ownTitles a b) (combine a b l r)) =
      conditions.all (Condition.holds a.titles l) :=
  Query.holds_congr (q := ⟨[], [], conditions⟩) fun c hcm column hm =>
    cell?_combine_left hl hr (hc c hcm column hm)

theorem holds_combine_right (hn : b.titles.Nodup) (h : agree a b l r)
    (hc : ∀ c ∈ conditions, ∀ column ∈ c.columns, column ∈ b.titles) :
    conditions.all (Condition.holds (a.titles ++ ownTitles a b) (combine a b l r)) =
      conditions.all (Condition.holds b.titles r) :=
  Query.holds_congr (q := ⟨[], [], conditions⟩) fun c hcm column hm =>
    cell?_combine_right hn hl hr h (hc c hcm column hm)

end Combinations

section JoinedRows

variable (ha : a.Valid) (hb : b.Valid) (habt : ab.titles = a.titles ++ ownTitles a b)
  (habr : ab.rows = joinedRows a b)

include ha hb habt habr

theorem joinedRows_filter_left (hfat : fa.titles = a.titles)
    (hfar : fa.rows = a.keptRows conditions)
    (hc : ∀ c ∈ conditions, ∀ column ∈ c.columns, column ∈ a.titles) :
    joinedRows fa b = ab.keptRows conditions := by
  rw [joinedRows, hfar, keptRows, keptRows, habr, joinedRows, List.filter_flatMap, habt,
    agree_congr hfat rfl, combine_congr hfat rfl]
  apply flatMap_filter_eq
  intro l hlm
  -- all combinations with a row of the left table are kept or none is
  have hholds : ∀ row ∈ (b.rows.filter (agree a b l)).map (combine a b l),
      conditions.all (Condition.holds (a.titles ++ ownTitles a b) row) =
        conditions.all (Condition.holds a.titles l) := by
    intro row hrow
    obtain ⟨r, hrm, rfl⟩ := List.mem_map.mp hrow
    exact holds_combine_left (ha.width_eq l hlm) (hb.width_eq r (List.mem_filter.mp hrm).1) hc
  split <;> rename_i hkeep
  · refine (List.filter_eq_self.mpr fun row hrow => ?_).symm
    rw [hholds row hrow, hkeep]
  · refine List.filter_eq_nil_iff.mpr fun row hrow => ?_
    rw [hholds row hrow]
    exact hkeep

theorem joinedRows_filter_right (hfbt : fb.titles = b.titles)
    (hfbr : fb.rows = b.keptRows conditions)
    (hc : ∀ c ∈ conditions, ∀ column ∈ c.columns, column ∈ b.titles) :
    joinedRows a fb = ab.keptRows conditions := by
  rw [joinedRows, hfbr, keptRows, keptRows, habr, filter_joinedRows, habt, agree_congr rfl hfbt,
    combine_congr rfl hfbt]
  apply List.flatMap_congr
  intro l hlm
  rw [List.filter_filter]
  apply congrArg
  apply List.filter_congr
  intro r hrm
  by_cases hagree : agree a b l r
  · rw [holds_combine_right (ha.width_eq l hlm) (hb.width_eq r hrm) hb.titles_nodup hagree hc,
      Bool.and_comm]
  · simp [hagree]

end JoinedRows

/-- A join is what a filter leaves of `ab` when it has the titles of `ab` and the rows that are
kept. -/
theorem Valid.filter_eq_join {left right : Table} (hv : ab.Valid) (hl : left.Valid)
    (hr : right.Valid) (hc : ∀ c ∈ conditions, ∀ column ∈ c.columns, column ∈ ab.titles)
    (htitles : left.titles ++ ownTitles left right = ab.titles)
    (hrows : joinedRows left right = ab.keptRows conditions) :
    ∃ t, left.join right = .ok t ∧ ab.filter conditions = .ok t := by
  obtain ⟨t, ht, htv, htt, htr⟩ := hl.join_eq_ok hr
  obtain ⟨t', ht', htv', htt', htr'⟩ := hv.filter_eq_ok hc
  have heq : t' = t := by
    apply htv'.eq_of_rows htv
    · rw [htt', htt, htitles]
    · rw [htr', htr, hrows]
  exact ⟨t, ht, heq ▸ ht'⟩

/-- Conditions that speak of the columns of one table only give the same table, with the same rows
in the same order and the same index, whether they are applied to that table before the join or to
the join. For the table on the right this goes for shared columns too, although the join has these
cells from the left. -/
theorem join_filter (ha : a.Valid) (hb : b.Valid) :
    ((∀ c ∈ conditions, ∀ column ∈ c.columns, column ∈ a.titles) →
      ∃ fa ab t, a.filter conditions = .ok fa ∧ a.join b = .ok ab ∧ fa.join b = .ok t ∧
        ab.filter conditions = .ok t) ∧
    ((∀ c ∈ conditions, ∀ column ∈ c.columns, column ∈ b.titles) →
      ∃ fb ab t, b.filter conditions = .ok fb ∧ a.join b = .ok ab ∧ a.join fb = .ok t ∧
        ab.filter conditions = .ok t) := by
  obtain ⟨ab, hab, habv, habt, habr⟩ := ha.join_eq_ok hb
  have hmem : ∀ column, column ∈ ab.titles ↔ column ∈ a.titles ∨ column ∈ b.titles :=
    fun _ => habt ▸ mem_joinedTitles
  constructor
  · intro hc
    obtain ⟨fa, hfa, hfav, hfat, hfar⟩ := ha.filter_eq_ok hc
    have htitles : fa.titles ++ ownTitles fa b = ab.titles := by
      rw [habt, ownTitles_congr hfat rfl, hfat]
    obtain ⟨t, ht, hfilter⟩ := habv.filter_eq_join hfav hb
      (fun c hcm column hm => (hmem column).mpr (.inl (hc c hcm column hm))) htitles
      (joinedRows_filter_left ha hb habt habr hfat hfar hc)
    exact ⟨fa, ab, t, hfa, hab, ht, hfilter⟩
  · intro hc
    obtain ⟨fb, hfb, hfbv, hfbt, hfbr⟩ := hb.filter_eq_ok hc
    have htitles : a.titles ++ ownTitles a fb = ab.titles := by
      rw [habt, ownTitles_congr rfl hfbt]
    obtain ⟨t, ht, hfilter⟩ := habv.filter_eq_join ha hfbv
      (fun c hcm column hm => (hmem column).mpr (.inr (hc c hcm column hm))) htitles
      (joinedRows_filter_right ha hb habt habr hfbt hfbr hc)
    exact ⟨fb, ab, t, hfb, hab, ht, hfilter⟩

/-- The condition on the shared column "k" is one on the right table, which loses a row to it. -/
theorem join_filter_of_shared_title :
    let a : Table := ⟨["k", "x"], [["2", "p"], ["1", "q"], ["1", "p"]], [2, 1, 0]⟩
    let b : Table := ⟨["y", "k"], [["v", "1"], ["u", "2"], ["u", "1"]], [2, 1, 0]⟩
    let onLeft : List Condition := [⟨"x", .equal, .literal "p"⟩]
    let onRight : List Condition := [⟨"k", .less, .literal "2"⟩, ⟨"y", .unequal, .column "k"⟩]
    ((a.Valid ∧ b.Valid) ∧ (∀ c ∈ onLeft, ∀ column ∈ c.columns, column ∈ a.titles) ∧
        ∀ c ∈ onRight, ∀ column ∈ c.columns, column ∈ b.titles) ∧
      (∃ fa ab t, a.filter onLeft = .ok fa ∧ a.join b = .ok ab ∧ fa.join b = .ok t ∧
        ab.filter onLeft = .ok t) ∧
      ∃ fb ab t, b.filter onRight = .ok fb ∧ a.join b = .ok ab ∧ a.join fb = .ok t ∧
        ab.filter onRight = .ok t := by
  intro a b onLeft onRight
  have ha : a.Valid := by constructor <;> decide
  have hb : b.Valid := by constructor <;> decide
  have hleft : ∀ c ∈ onLeft, ∀ column ∈ c.columns, column ∈ a.titles := by decide
  have hright : ∀ c ∈ onRight, ∀ column ∈ c.columns, column ∈ b.titles := by decide
  exact ⟨⟨⟨ha, hb⟩, hleft, hright⟩, (join_filter ha hb).1 hleft, (join_filter ha hb).2 hright⟩

end TableShell.Table
