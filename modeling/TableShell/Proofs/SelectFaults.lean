import TableShell.Proofs.JoinRows
import TableShell.Proofs.SelectRows
import TableShell.Proofs.TableResults

namespace TableShell

def First {α : Type} (p : α → Prop) (as : List α) (a : α) : Prop :=
  ∃ before after, as = before ++ a :: after ∧ (∀ b ∈ before, ¬p b) ∧ p a

section First

variable {α : Type} {p : α → Prop} {as : List α} {a b : α}

theorem find?_eq_some_iff_first [DecidablePred p] :
    as.find? (fun a => decide (p a)) = some a ↔ First p as a := by
  rw [List.find?_eq_some_iff_append, First]
  constructor
  · rintro ⟨ha, before, after, rfl, hbefore⟩
    exact ⟨before, after, rfl, by simpa using hbefore, by simpa using ha⟩
  · rintro ⟨before, after, rfl, hbefore, ha⟩
    exact ⟨by simpa using ha, before, after, rfl, by simpa using hbefore⟩

theorem first_cons_iff : First p (b :: as) a ↔ p b ∧ b = a ∨ ¬p b ∧ First p as a := by
  constructor
  · rintro ⟨before, after, he, hbefore, ha⟩
    obtain ⟨rfl, he⟩ | ⟨later, rfl, rfl⟩ := List.cons_eq_append_iff.mp he
    · obtain ⟨rfl, -⟩ := List.cons.inj he
      exact .inl ⟨ha, rfl⟩
    · obtain ⟨hb, hlater⟩ := List.forall_mem_cons.mp hbefore
      exact .inr ⟨hb, later, after, rfl, hlater, ha⟩
  · rintro (⟨hb, rfl⟩ | ⟨hb, before, after, rfl, hbefore, ha⟩)
    · exact ⟨[], as, rfl, by simp, hb⟩
    · exact ⟨b :: before, after, rfl, List.forall_mem_cons.mpr ⟨hb, hbefore⟩, ha⟩

end First

namespace Condition

/-- The column of the condition that is not found among the titles: the right one, or the left one
if nothing is to be found on the right or it is found. -/
def Misses (titles : List String) (c : Condition) (name : String) : Prop :=
  name ∉ titles ∧ (c.operand = .column name ∨
    (∀ right, c.operand = .column right → right ∈ titles) ∧ c.column = name)

variable {titles : List String} {c : Condition} {name : String}

theorem find?_columns_eq_some_iff :
    c.columns.find? (· ∉ titles) = some name ↔ c.Misses titles name := by
  obtain ⟨column, comparison, operand⟩ := c
  cases operand with
  | literal value =>
    simp only [columns, Operand.columns, List.nil_append, List.find?_singleton, Misses]
    grind
  | column other =>
    simp only [columns, Operand.columns, List.singleton_append, List.find?_cons,
      List.find?_nil, Misses]
    grind

theorem find?_columns_eq_none_iff : c.columns.find? (· ∉ titles) = none ↔ c.Known titles := by
  simp [List.find?_eq_none, Known]

theorem Misses.not_known (h : c.Misses titles name) : ¬c.Known titles := by
  rw [← find?_columns_eq_none_iff, find?_columns_eq_some_iff.mpr h]
  exact Option.some_ne_none name

end Condition

namespace Query

variable {q : Query} {titles : List String} {name : String}

theorem find?_allColumns_eq_some_iff :
    q.allColumns.find? (· ∉ titles) = some name ↔
      First (· ∉ titles) q.columns name ∨
        (∀ column ∈ q.columns, column ∈ titles) ∧
          ∃ c, First (¬Condition.Known titles ·) q.conditions c ∧ c.Misses titles name := by
  rw [allColumns, List.find?_append, Option.or_eq_some_iff, find?_eq_some_iff_first,
    List.find?_eq_none, List.find?_flatMap, List.findSome?_eq_some_iff]
  simp only [Condition.find?_columns_eq_some_iff, Condition.find?_columns_eq_none_iff,
    decide_eq_true_iff, not_not]
  apply or_congr_right
  apply and_congr_right
  intro _
  constructor
  · rintro ⟨before, c, after, he, hmisses, hbefore⟩
    refine ⟨c, ⟨before, after, he, fun d hd => ?_, hmisses.not_known⟩, hmisses⟩
    exact not_not.mpr (hbefore d hd)
  · rintro ⟨c, ⟨before, after, he, hbefore, -⟩, hmisses⟩
    exact ⟨before, c, after, he, hmisses, fun d hd => not_not.mp (hbefore d hd)⟩

end Query

namespace Table

variable {t start : Table} {q : Query} {fault : Fault}

theorem resolve_eq_error_iff :
    t.resolve q = .error fault ↔
      ∃ name, q.allColumns.find? (· ∉ t.titles) = some name ∧ fault = .unknownColumn name := by
  rw [resolve]
  split <;> rename_i hr
  · simp only [hr, Except.error.injEq, Option.some_inj, exists_eq_left', eq_comm]
  · simp only [hr, reduceCtorEq, false_and, exists_false]

theorem Valid.insertAll_selectedRows (h : t.Valid) (hr : t.resolve q = .ok ())
    (hc : ofTitles q.columns = .ok start) : ∃ t', start.insertAll (t.selectedRows q) = .ok t' := by
  obtain ⟨t', ht', -⟩ := h.select_eq_ok hr hc
  rw [Table.select, hr, hc] at ht'
  exact ⟨t', ht'⟩

theorem Valid.select_eq_error_iff (h : t.Valid) :
    t.select q = .error fault ↔
      t.resolve q = .error fault ∨ t.resolve q = .ok () ∧ ofTitles q.columns = .error fault := by
  rw [Table.select, bind_eq_error_iff]
  apply or_congr_right
  constructor
  · rintro ⟨⟨⟩, hr, hmade⟩
    obtain hc | ⟨start, hc, hi⟩ := bind_eq_error_iff.mp hmade
    · exact ⟨hr, hc⟩
    · obtain ⟨t', ht'⟩ := h.insertAll_selectedRows hr hc
      cases hi.symm.trans ht'
  · rintro ⟨hr, hc⟩
    exact ⟨(), hr, bind_eq_error_iff.mpr (.inl hc)⟩

end Table

namespace Database

variable {db : Database} {q : Query} {fault : Fault} {names : List String}

theorem mapM_table_eq_error_iff :
    names.mapM db.table = .error fault ↔
      ∃ name, First (fun name => db.get? name = none) names name ∧ fault = .unknownTable name := by
  induction names with
  | nil => simp [First, pure, Except.pure]
  | cons name rest ih =>
    simp only [List.mapM_cons, bind_eq_error_iff, first_cons_iff, ih]
    cases hget : db.get? name with
    | none => simp [table, hget, eq_comm]
    | some t =>
      have hpure : ∀ later, (pure (t :: later) : Except Fault (List Table)) ≠ .error fault := by
        intro later h
        cases h
      simp [table, hget, hpure]

theorem get?_ne_none_of_mapM {tables : List Table} (h : names.mapM db.table = .ok tables) :
    ∀ name ∈ names, db.get? name ≠ none := by
  intro name hn
  replace h := get?_of_mapM h
  induction h with
  | nil => cases hn
  | cons hget _ ih =>
    obtain rfl | hn := List.mem_cons.mp hn
    · simp [hget]
    · exact ih hn

theorem exists_mapM_of_get? (h : ∀ name ∈ names, db.get? name ≠ none) :
    ∃ tables, names.mapM db.table = .ok tables := by
  cases hm : names.mapM db.table with
  | ok tables => exact ⟨tables, rfl⟩
  | error other =>
    obtain ⟨name, ⟨before, after, he, -, hnone⟩, -⟩ := mapM_table_eq_error_iff.mp hm
    exact absurd hnone (h name (by simp [he]))

/-- Why a query fails. None of the reasons applies together with one that comes later. -/
inductive Refuses (db : Database) (q : Query) : Fault → Prop
  | unknownTable {name : String} (missing : First (fun name => db.get? name = none) q.tables name) :
    Refuses db q (.unknownTable name)
  | tooManyTables (tables : ∀ name ∈ q.tables, db.get? name ≠ none)
      (not_one : q.tables.length ≠ 1) (not_two : q.tables.length ≠ 2) :
    Refuses db q (.tooManyTables q.tables.length)
  | unknownColumn {source : Table} {name : String} (asked : db.Over q source)
      (missing : First (· ∉ source.titles) q.columns name) :
    Refuses db q (.unknownColumn name)
  | unknownInCondition {source : Table} {c : Condition} {name : String} (asked : db.Over q source)
      (columns : ∀ column ∈ q.columns, column ∈ source.titles)
      (unknown : First (¬Condition.Known source.titles ·) q.conditions c)
      (misses : c.Misses source.titles name) :
    Refuses db q (.unknownColumn name)
  | noColumns {source : Table} (asked : db.Over q source)
      (conditions : ∀ c ∈ q.conditions, c.Known source.titles) (empty : q.columns = []) :
    Refuses db q .noColumns
  | duplicateColumn {source : Table} {name : String} (asked : db.Over q source)
      (columns : ∀ column ∈ q.columns, column ∈ source.titles)
      (conditions : ∀ c ∈ q.conditions, c.Known source.titles)
      (repeated : Table.FirstRepeated q.columns name) :
    Refuses db q (.duplicateColumn name)

variable (hdb : db.Valid)

include hdb

theorem refuses_of_over {source : Table} (hover : db.Over q source)
    (h : source.select q = .error fault) : db.Refuses q fault := by
  obtain hr | ⟨hr, hc⟩ := (hover.valid hdb).select_eq_error_iff.mp h
  · obtain ⟨name, hfind, rfl⟩ := Table.resolve_eq_error_iff.mp hr
    obtain hmissing | ⟨hcolumns, c, hunknown, hmisses⟩ :=
      Query.find?_allColumns_eq_some_iff.mp hfind
    · exact .unknownColumn hover hmissing
    · exact .unknownInCondition hover hcolumns hunknown hmisses
  · obtain ⟨hcolumns, hconditions⟩ := Query.known_iff.mp (Table.allColumns_of_resolve hr)
    obtain ⟨hempty, rfl⟩ | ⟨name, hrepeated, rfl⟩ := Table.ofTitles_eq_error_iff.mp hc
    · exact .noColumns hover hconditions hempty
    · exact .duplicateColumn hover hcolumns hconditions hrepeated

theorem refuses_of_select (h : db.select q = .error fault) : db.Refuses q fault := by
  obtain h | ⟨sources, hsources, h⟩ := bind_eq_error_iff.mp h
  · obtain ⟨name, hmissing, rfl⟩ := mapM_table_eq_error_iff.mp h
    exact .unknownTable hmissing
  · have hfound := get?_of_mapM hsources
    split at h
    · obtain ⟨name, htables, hname⟩ := names_of_one hfound
      exact refuses_of_over hdb (.one htables hname) h
    · rename_i left right
      obtain ⟨first, second, htables, hfirst, hsecond⟩ := names_of_two hfound
      obtain ⟨source, hjoin, -⟩ := (hdb first left hfirst).join_eq_ok (hdb second right hsecond)
      rw [hjoin] at h
      exact refuses_of_over hdb (.two htables hfirst hsecond hjoin) h
    · rename_i hone htwo
      cases h
      have hcount := hfound.length_eq
      rw [← hcount]
      refine .tooManyTables (get?_ne_none_of_mapM hsources) (fun hlength => ?_) fun hlength => ?_
      · obtain ⟨source, rfl⟩ := List.length_eq_one_iff.mp (hcount ▸ hlength)
        exact hone source rfl
      · obtain ⟨left, right, rfl⟩ := List.length_eq_two.mp (hcount ▸ hlength)
        exact htwo left right rfl

theorem select_of_refuses (h : db.Refuses q fault) : db.select q = .error fault := by
  cases h with
  | @unknownTable name missing =>
    exact bind_eq_error_iff.mpr (.inl (mapM_table_eq_error_iff.mpr ⟨name, missing, rfl⟩))
  | tooManyTables tables not_one not_two =>
    obtain ⟨sources, hsources⟩ := exists_mapM_of_get? tables
    have hcount := (get?_of_mapM hsources).length_eq
    refine bind_eq_error_iff.mpr (.inr ⟨sources, hsources, ?_⟩)
    split
    · exact absurd hcount not_one
    · exact absurd hcount not_two
    · rw [hcount]
  | @unknownColumn source name asked missing =>
    rw [select_of_over asked, (asked.valid hdb).select_eq_error_iff, Table.resolve_eq_error_iff]
    exact .inl ⟨name, Query.find?_allColumns_eq_some_iff.mpr (.inl missing), rfl⟩
  | @unknownInCondition source c name asked columns unknown misses =>
    rw [select_of_over asked, (asked.valid hdb).select_eq_error_iff, Table.resolve_eq_error_iff]
    have hfind := Query.find?_allColumns_eq_some_iff.mpr (.inr ⟨columns, c, unknown, misses⟩)
    exact .inl ⟨name, hfind, rfl⟩
  | @noColumns source asked conditions empty =>
    rw [select_of_over asked, (asked.valid hdb).select_eq_error_iff, Table.ofTitles_eq_error_iff]
    have hcolumns : ∀ column ∈ q.columns, column ∈ source.titles := by simp [empty]
    exact .inr ⟨Table.resolve_of_mem_titles (Query.known_iff.mpr ⟨hcolumns, conditions⟩),
      .inl ⟨empty, rfl⟩⟩
  | @duplicateColumn source name asked columns conditions repeated =>
    rw [select_of_over asked, (asked.valid hdb).select_eq_error_iff, Table.ofTitles_eq_error_iff]
    exact .inr ⟨Table.resolve_of_mem_titles (Query.known_iff.mpr ⟨columns, conditions⟩),
      .inr ⟨name, repeated, rfl⟩⟩

/-- A query over valid tables fails for the first reason there is to refuse it, and has an answer if
there is none. Two tables can always be joined; and once all columns are found, and those of the
answer are titles that a table can have, no selected row is refused. -/
theorem select_refused_iff (q : Query) :
    (∀ fault, db.select q = .error fault ↔ db.Refuses q fault) ∧
    ((∃ t, db.select q = .ok t) ↔ ∀ fault, ¬db.Refuses q fault) ∧
    (∀ first second left right, db.get? first = some left → db.get? second = some right →
      ∃ source, left.join right = .ok source) ∧
    ∀ source start, db.Over q source → (∀ column ∈ q.allColumns, column ∈ source.titles) →
      Table.ofTitles q.columns = .ok start →
        ∃ t, start.insertAll (source.selectedRows q) = .ok t := by
  have hiff : ∀ fault, db.select q = .error fault ↔ db.Refuses q fault :=
    fun fault => ⟨refuses_of_select hdb, select_of_refuses hdb⟩
  refine ⟨hiff, ?_, ?_, ?_⟩
  · simp only [← hiff]
    cases db.select q with
    | error fault => simp
    | ok t => simp
  · intro first second left right hl hr
    obtain ⟨source, hjoin, -⟩ := (hdb first left hl).join_eq_ok (hdb second right hr)
    exact ⟨source, hjoin⟩
  · intro source start hover hcolumns hc
    exact (hover.valid hdb).insertAll_selectedRows (Table.resolve_of_mem_titles hcolumns) hc

omit hdb

theorem select_refused_iff_over_join :
    let left : Table := ⟨["a", "b"], [["z", "1"], ["x", "2"]], [1, 0]⟩
    let right : Table := ⟨["b", "c"], [["2", "w"], ["1", "y"]], [1, 0]⟩
    let db := (Database.empty.put "l" left).put "r" right
    db.Valid ∧
      db.select ⟨["c"], ["l", "m", "r"], []⟩ = .error (.unknownTable "m") ∧
      db.select ⟨["c", "c"], ["l", "r"], [⟨"a", .less, .column "b"⟩, ⟨"d", .equal, .column "e"⟩]⟩ =
        .error (.unknownColumn "e") ∧
      db.select ⟨["c", "a", "b", "a", "c"], ["l", "r"], []⟩ = .error (.duplicateColumn "a") := by
  intro left right db
  have hl : left.Valid := by constructor <;> decide
  have hr : right.Valid := by constructor <;> decide
  have hdb : db.Valid := ((all_empty _).put hl).put hr
  have hleft : db.get? "l" = some left := by simp [db, get?_put]
  have hright : db.get? "r" = some right := by simp [db, get?_put]
  have hjoin : left.join right =
      .ok ⟨["a", "b", "c"], [["z", "1", "y"], ["x", "2", "w"]], [1, 0]⟩ := by decide +kernel
  refine ⟨hdb, ?_, ?_, ?_⟩
  · refine ((select_refused_iff hdb _).1 _).mpr (.unknownTable ⟨["l"], ["r"], rfl, ?_, ?_⟩)
    · simp [hleft]
    · decide
  · refine ((select_refused_iff hdb _).1 _).mpr
      (.unknownInCondition (.two rfl hleft hright hjoin) (by decide) ⟨[_], [], rfl, ?_, ?_⟩ ?_)
    · simp [Condition.Known, Condition.columns, Operand.columns]
    · simp [Condition.Known, Condition.columns, Operand.columns]
    · exact ⟨by decide, .inl rfl⟩
  · exact ((select_refused_iff hdb _).1 _).mpr (.duplicateColumn (.two rfl hleft hright hjoin)
      (by decide) (by simp) ⟨["c", "a", "b"], ["c"], rfl, by decide, by decide⟩)

end Database

end TableShell
