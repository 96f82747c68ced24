import TableShell.Proofs.JoinRows
import TableShell.Proofs.SelectRows
import TableShell.Proofs.SessionCalls

namespace TableShell

namespace Table

variable {t view : Table} {q q' : Query}

theorem Valid.selectedRows_selectedRows (h : t.Valid) (hq : ∀ column ∈ q.columns, column ∈ t.titles)
    (hq' : ∀ column ∈ q'.allColumns, column ∈ q.columns) :
    ((t.selectedRows q).filter (q'.holds q.columns)).map
        (fun row => Row.select q.columns row q'.columns) =
      t.selectedRows ⟨q'.columns, q.tables, q.conditions ++ q'.conditions⟩ := by
  have hcell : ∀ row ∈ t.rows, ∀ column ∈ q'.allColumns,
      Row.cell? q.columns (Row.select t.titles row q.columns) column =
        Row.cell? t.titles row column := by
    intro row hr column hc
    exact Row.cell?_select (h.width_eq row hr) hq (hq' column hc)
  rw [selectedRows, selectedRows, List.filter_map, List.map_map, List.filter_filter]
  have hfilter : t.rows.filter (fun row =>
        (q'.holds q.columns ∘ fun row => Row.select t.titles row q.columns) row &&
          q.holds t.titles row) =
      t.rows.filter (Query.holds ⟨q'.columns, q.tables, q.conditions ++ q'.conditions⟩ t.titles) := by
    apply List.filter_congr
    intro row hr
    have hlater : q'.holds q.columns (Row.select t.titles row q.columns) =
        q'.holds t.titles row := by
      apply Query.holds_congr
      intro c hc column hcolumn
      apply hcell row hr
      exact List.mem_append_right _ (List.mem_flatMap.mpr ⟨c, hc, hcolumn⟩)
    rw [Function.comp_apply, hlater, Bool.and_comm]
    exact List.all_append.symm
  rw [hfilter]
  apply List.map_congr_left
  intro row hr
  apply Row.select_congr
  intro column hc
  exact hcell row (List.mem_of_mem_filter hr) column (List.mem_append_left _ hc)

theorem Valid.select_select (h : t.Valid) (hq : ∀ column ∈ q.allColumns, column ∈ t.titles)
    (hnodup : q.columns.Nodup) (hq' : ∀ column ∈ q'.allColumns, column ∈ q.columns)
    (hne' : q'.columns ≠ []) (hnodup' : q'.columns.Nodup) :
    ∃ view answer, t.select q = .ok view ∧ view.select q' = .ok answer ∧
      t.select ⟨q'.columns, q.tables, q.conditions ++ q'.conditions⟩ = .ok answer := by
  have hcolumns : ∀ column ∈ q.columns, column ∈ t.titles :=
    fun column hc => hq column (List.mem_append_left _ hc)
  have hne : q.columns ≠ [] := by
    obtain ⟨column, hc⟩ := List.exists_mem_of_ne_nil _ hne'
    exact List.ne_nil_of_mem (hq' column (List.mem_append_left _ hc))
  obtain ⟨view, hview, hv, htitles, hrows⟩ :=
    h.select_eq_ok (resolve_of_mem_titles hq) (ofTitles_of_nodup hne hnodup)
  have hresolve' : view.resolve q' = .ok () := by
    apply resolve_of_mem_titles
    rw [htitles]
    exact hq'
  obtain ⟨answer, hanswer, hav, hatitles, harows⟩ :=
    hv.select_eq_ok hresolve' (ofTitles_of_nodup hne' hnodup')
  have hresolve : t.resolve ⟨q'.columns, q.tables, q.conditions ++ q'.conditions⟩ = .ok () := by
    apply resolve_of_mem_titles
    intro column hc
    simp only [Query.allColumns, List.flatMap_append, List.mem_append] at hc hq hq'
    grind
  obtain ⟨once, honce, hov, hotitles, horows⟩ :=
    h.select_eq_ok hresolve (ofTitles_of_nodup hne' hnodup')
  have heq : answer = once := by
    apply hav.eq_of_rows hov (hatitles.trans hotitles.symm)
    rw [harows, horows, ← h.selectedRows_selectedRows hcolumns hq', selectedRows, hrows, htitles,
      filter_eraseDups, eraseDups_map_eraseDups]
  exact ⟨view, answer, hview, hanswer, heq ▸ honce⟩

end Table

namespace Database

variable {db : Database}

def titlesOf (db : Database) (names : List String) : List String :=
  names.flatMap fun name => ((db.get? name).map Table.titles).getD []

theorem exists_source (h : db.Valid) {names : List String}
    (hcount : names.length = 1 ∨ names.length = 2)
    (hnames : ∀ name ∈ names, (db.get? name).isSome) :
    ∃ source : Table, source.Valid ∧ (∀ title, title ∈ source.titles ↔ title ∈ db.titlesOf names) ∧
      ∀ columns conditions, db.select ⟨columns, names, conditions⟩ =
        source.select ⟨columns, names, conditions⟩ := by
  obtain hone | htwo := hcount
  · obtain ⟨name, rfl⟩ := List.length_eq_one_iff.mp hone
    obtain ⟨t, ht⟩ := Option.isSome_iff_exists.mp (hnames name (by simp))
    refine ⟨t, h name t ht, ?_, select_of_one ht⟩
    simp [titlesOf, ht]
  · obtain ⟨first, second, rfl⟩ := List.length_eq_two.mp htwo
    obtain ⟨left, hl⟩ := Option.isSome_iff_exists.mp (hnames first (by simp))
    obtain ⟨right, hr⟩ := Option.isSome_iff_exists.mp (hnames second (by simp))
    obtain ⟨t, ht, hv, htitles, -⟩ := (h first left hl).join_eq_ok (h second right hr)
    refine ⟨t, hv, ?_, ?_⟩
    · intro title
      rw [htitles, Table.mem_joinedTitles]
      simp [titlesOf, hl, hr]
    · intro columns conditions
      rw [select_of_two hl hr, ht]
      rfl

end Database

namespace Session

variable {s : Session}

theorem execute_create (name : String) {definition : Definition} {t : Table}
    (h : Statement.definedTable s.database definition = .ok t) :
    ∃ s', s.execute (.create name definition) = (.ok true, s') ∧
      s'.database = s.database.put name t := by
  have heffect : ∀ file, ((Statement.create name definition).effect s.dir s.database file).1 =
      .ok ⟨"", s.database.put name t, true⟩ := by
    intro file
    rw [Statement.effect, h]
    rfl
  exact ⟨_, execute_of_fits (heffect _) (s.output.write_empty .answer), rfl⟩

/-- The answer to a query over one table or two can be given any name, and a query over the table
made of it has the answer of one query over the tables of the first. -/
theorem select_of_stored_answer (hdb : s.database.Valid) {names : List String}
    (hcount : names.length = 1 ∨ names.length = 2)
    (hnames : ∀ name ∈ names, (s.database.get? name).isSome)
    {kept columns : List String} {first later : List Condition}
    (hkept : ∀ column ∈ kept, column ∈ s.database.titlesOf names) (hkeptd : kept.Nodup)
    (hfirst : ∀ c ∈ first, ∀ column ∈ c.columns, column ∈ s.database.titlesOf names)
    (hne : columns ≠ []) (hcolumns : ∀ column ∈ columns, column ∈ kept) (hd : columns.Nodup)
    (hlater : ∀ c ∈ later, ∀ column ∈ c.columns, column ∈ kept) (name : String) :
    ∃ s' answer, s.execute (.create name (.query ⟨kept, names, first⟩)) = (.ok true, s') ∧
      s'.database.select ⟨columns, [name], later⟩ = .ok answer ∧
      s.database.select ⟨columns, names, first ++ later⟩ = .ok answer := by
  obtain ⟨source, hv, htitles, hselect⟩ := Database.exists_source hdb hcount hnames
  have hq : ∀ column ∈ Query.allColumns ⟨kept, names, first⟩, column ∈ source.titles := by
    intro column hc
    rw [htitles]
    obtain hc | hc := List.mem_append.mp hc
    · exact hkept column hc
    · obtain ⟨c, hm, hc⟩ := List.mem_flatMap.mp hc
      exact hfirst c hm column hc
  have hq' : ∀ column ∈ Query.allColumns ⟨columns, [name], later⟩, column ∈ kept := by
    intro column hc
    obtain hc | hc := List.mem_append.mp hc
    · exact hcolumns column hc
    · obtain ⟨c, hm, hc⟩ := List.mem_flatMap.mp hc
      exact hlater c hm column hc
  obtain ⟨view, answer, hview, hanswer, honce⟩ := hv.select_select hq hkeptd hq' hne hd
  have hdefined : Statement.definedTable s.database (.query ⟨kept, names, first⟩) = .ok view :=
    (hselect kept first).trans hview
  obtain ⟨s', hs', hput⟩ := execute_create name hdefined
  refine ⟨s', answer, hs', ?_, (hselect columns (first ++ later)).trans honce⟩
  have hget : s'.database.get? name = some view := by
    rw [hput, Database.get?_put, if_pos rfl]
  rw [Database.select_of_one hget]
  exact hanswer

theorem select_of_stored_answer_over_join :
    let t : Table := ⟨["a", "b"], [["z", "1"], ["x", "2"], ["y", "1"]], [1, 2, 0]⟩
    let u : Table := ⟨["b", "c"], [["2", "q"], ["1", "p"], ["2", "p"]], [1, 2, 0]⟩
    let db := (Database.empty.put "t" t).put "u" u
    let s : Session := { new [] "" .empty .unlimited false with database := db }
    let first : List Condition := [⟨"a", .unequal, .literal "x"⟩]
    let later : List Condition := [⟨"b", .less, .column "c"⟩]
    (t.Valid ∧ u.Valid) ∧
      ∃ s' answer, s.execute (.create "t" (.query ⟨["c", "b"], ["t", "u"], first⟩)) = (.ok true, s') ∧
        s'.database.select ⟨["c"], ["t"], later⟩ = .ok answer ∧
        s.database.select ⟨["c"], ["t", "u"], first ++ later⟩ = .ok answer := by
  intro t u db s first later
  have ht : t.Valid := by constructor <;> decide
  have hu : u.Valid := by constructor <;> decide
  have hdb : s.database.Valid := ((Database.all_empty _).put ht).put hu
  have htitles : s.database.titlesOf ["t", "u"] = ["a", "b", "b", "c"] := by
    simp [s, db, Database.titlesOf, Database.get?_put, t, u]
  refine ⟨⟨ht, hu⟩, select_of_stored_answer hdb (.inr rfl) ?_ ?_ ?_ ?_ ?_ ?_ ?_ ?_ "t"⟩
  · simp [s, db, Database.get?_put]
  · rw [htitles]
    decide
  · decide
  · rw [htitles]
    decide
  · decide
  · decide
  · decide
  · decide

end Session

end TableShell
