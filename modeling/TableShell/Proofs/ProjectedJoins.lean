import TableShell.Proofs.DatabaseEntries
import TableShell.Proofs.JoinRows
import TableShell.Proofs.SelectRows

namespace TableShell.Table

variable {a p : Table} {l r : Row}

section Part

variable (hsub : ∀ title ∈ p.titles, title ∈ a.titles)

include hsub

theorem ownTitles_eq_nil : ownTitles a p = [] := by
  rw [ownTitles, List.filter_eq_nil_iff]
  intro title ht
  simpa using hsub title ht

theorem combine_eq_left (l r : Row) : combine a p l r = l := by
  have hown : ownColumns a p r = [] := by
    rw [ownColumns, List.filter_eq_nil_iff]
    intro column hc
    simpa using hsub column.1 (List.of_mem_zip hc).1
  rw [combine_eq, hown, List.map_nil, List.append_nil]

variable (hn : p.titles.Nodup) (hl : l.length = a.width)

include hn hl

theorem agree_iff_select (hr : r.length = p.width) :
    agree a p l r ↔ r = Row.select a.titles l p.titles := by
  have hw : (Row.select a.titles l p.titles).length = p.titles.length := Row.length_select hl hsub
  rw [agree_iff_shared hn hl hr]
  constructor
  · intro hagree
    apply Row.eq_of_cell? hn hr hw
    intro title ht
    rw [Row.cell?_select hl hsub ht, hagree title (hsub title ht) ht]
  · rintro rfl title - ht
    exact (Row.cell?_select hl hsub ht).symm

theorem filter_agree (hwidth : ∀ row ∈ p.rows, row.length = p.width) (hrows : p.rows.Nodup)
    (hm : Row.select a.titles l p.titles ∈ p.rows) :
    p.rows.filter (agree a p l) = [Row.select a.titles l p.titles] := by
  have hpartner : p.rows.filter (agree a p l) =
      p.rows.filter (· == Row.select a.titles l p.titles) := by
    apply List.filter_congr
    intro r hr
    rw [Bool.eq_iff_iff, agree_iff_select hsub hn hl (hwidth r hr), beq_iff_eq]
  rw [hpartner, List.filter_beq, List.count_eq_one_of_mem hrows hm, List.replicate_one]

end Part

section Projection

variable (ha : a.Valid) (hp : p.Valid) (hsub : ∀ title ∈ p.titles, title ∈ a.titles)
  (hparts : ∀ l ∈ a.rows, Row.select a.titles l p.titles ∈ p.rows)

include ha hp hsub hparts

theorem joinedRows_eq_left : joinedRows a p = a.rows := by
  calc joinedRows a p = a.rows.flatMap fun l => [l] := by
        apply List.flatMap_congr
        intro l hl
        rw [filter_agree hsub hp.titles_nodup (ha.width_eq l hl) hp.width_eq hp.rows_nodup
          (hparts l hl), List.map_singleton, combine_eq_left hsub]
    _ = a.rows := List.flatMap_singleton' a.rows

/-- A table that has some of the titles, and the part of every row under them, adds nothing. Rows
that are part of no row are not seen. -/
theorem join_eq_left : a.join p = .ok a := by
  obtain ⟨t, ht, hv, htitles, hrows⟩ := ha.join_eq_ok hp
  have heq : t = a := by
    apply hv.eq_of_rows ha
    · rw [htitles, ownTitles_eq_nil hsub, List.append_nil]
    · rw [hrows, joinedRows_eq_left ha hp hsub hparts]
  rw [ht, heq]

end Projection

theorem Valid.project_eq_ok (ha : a.Valid) {columns : List String} (hne : columns ≠ [])
    (hn : columns.Nodup) (hsub : ∀ column ∈ columns, column ∈ a.titles) (names : List String) :
    ∃ p, a.select ⟨columns, names, []⟩ = .ok p ∧ p.Valid ∧ p.titles = columns ∧
      ∀ row, row ∈ p.rows ↔ ∃ l ∈ a.rows, Row.select a.titles l columns = row := by
  have hresolve : a.resolve ⟨columns, names, []⟩ = .ok () :=
    resolve_of_mem_titles (Query.known_iff.mpr ⟨hsub, by simp⟩)
  obtain ⟨p, hselect, hp, htitles, hrows⟩ := ha.select_eq_ok hresolve (ofTitles_of_nodup hne hn)
  refine ⟨p, hselect, hp, htitles, fun row => ?_⟩
  rw [hrows, List.mem_eraseDups, mem_selectedRows]
  simp [Query.holds]

/-- Joining a table with a projection of itself gives the table back, whatever the order of the
columns is and however many of its rows fall together under them. With all columns the projection is
the table, and so a query over the table twice is the query over the table. -/
theorem join_projection (ha : a.Valid) :
    (∀ columns names, columns ≠ [] → columns.Nodup → (∀ column ∈ columns, column ∈ a.titles) →
      ∃ p, a.select ⟨columns, names, []⟩ = .ok p ∧ a.join p = .ok a) ∧
    a.join a = .ok a ∧
    ∀ (db : Database) name, db.get? name = some a → ∀ columns conditions,
      db.select ⟨columns, [name, name], conditions⟩ = db.select ⟨columns, [name], conditions⟩ := by
  have hself : a.join a = .ok a := by
    apply join_eq_left ha ha fun _ ht => ht
    intro l hl
    rwa [Row.select_self ha.titles_nodup (ha.width_eq l hl)]
  refine ⟨?_, hself, ?_⟩
  · intro columns names hne hn hsub
    obtain ⟨p, hselect, hp, rfl, hrows⟩ := ha.project_eq_ok hne hn hsub names
    exact ⟨p, hselect, join_eq_left ha hp hsub fun l hl => (hrows _).mpr ⟨l, hl, rfl⟩⟩
  · intro db name hget columns conditions
    rw [Database.select_of_two hget hget, Database.select_of_one hget, hself]
    rfl

/-- Under the columns "z" and "x" two of the three rows fall together. -/
theorem join_projection_of_equal_parts :
    let a : Table :=
      ⟨["x", "y", "z"], [["2", "p", "u"], ["1", "p", "v"], ["2", "o", "u"]], [1, 2, 0]⟩
    let p : Table := ⟨["z", "x"], [["u", "2"], ["v", "1"]], [0, 1]⟩
    let db := Database.empty.put "t" a
    a.Valid ∧ a.select ⟨["z", "x"], ["t"], []⟩ = .ok p ∧ a.join p = .ok a ∧
      a.join a = .ok a ∧ db.select ⟨["y"], ["t", "t"], []⟩ = db.select ⟨["y"], ["t"], []⟩ := by
  intro a p db
  have ha : a.Valid := by constructor <;> decide
  have hp : a.select ⟨["z", "x"], ["t"], []⟩ = .ok p := by decide +kernel
  have hget : db.get? "t" = some a := by simp [db, Database.get?_put]
  obtain ⟨hjoin, hself, hselect⟩ := join_projection ha
  obtain ⟨p', hp', hap⟩ := hjoin ["z", "x"] ["t"] (by decide) (by decide) (by decide)
  obtain rfl : p = p' := Except.ok.inj (hp.symm.trans hp')
  exact ⟨ha, hp, hap, hself, hselect db "t" hget ["y"] []⟩

end TableShell.Table
