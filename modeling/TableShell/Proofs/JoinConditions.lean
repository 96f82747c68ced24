import Mathlib.Data.List.Find
import TableShell.Proofs.DatabaseEntries
import TableShell.Proofs.JoinRows
import TableShell.Proofs.SelectRows
import TableShell.Proofs.SentencesRead
import TableShell.Proofs.TrimmedText

namespace TableShell

theorem Row.cell?_map {titles : List String} {row : Row} {title : String} {f : String → String}
    (h : ∀ other ∈ titles, f other = f title → other = title) :
    cell? (titles.map f) row (f title) = cell? titles row title := by
  induction titles generalizing row with
  | nil => rfl
  | cons first rest ih =>
    obtain ⟨hfirst, hrest⟩ := List.forall_mem_cons.mp h
    cases row with
    | nil => rfl
    | cons cell cells =>
      rw [cell?, cell?, List.map_cons, List.zip_cons_cons, List.zip_cons_cons, List.lookup_cons,
        List.lookup_cons]
      by_cases he : title = first
      · simp [he]
      · have hb : (title == first) = false := by simpa using he
        have hfb : (f title == f first) = false := by
          rw [beq_eq_false_iff_ne]
          exact fun hf => he (hfirst hf.symm).symm
        rw [hb, hfb]
        exact ih hrest

def equations (shared : List String) (fresh : String → String) : List Condition :=
  shared.map fun title => ⟨title, .equal, .column (fresh title)⟩

theorem mem_columns_equations {shared : List String} {fresh : String → String} {column : String} :
    column ∈ (equations shared fresh).flatMap Condition.columns ↔
      ∃ title ∈ shared, column = fresh title ∨ column = title := by
  simp [equations, Condition.columns, Operand.columns]

namespace Table

def rename (a : Table) (fresh : String → String) (title : String) : String :=
  if title ∈ a.titles then fresh title else title

def apart (a b : Table) (fresh : String → String) : Table :=
  { b with titles := b.titles.map (rename a fresh) }

/-- These are the titles that two tables share, and each has a fresh one. -/
structure Freshens (a b : Table) (shared : List String) (fresh : String → String) : Prop where
  mem_shared : ∀ title, title ∈ shared ↔ title ∈ a.titles ∧ title ∈ b.titles
  not_left : ∀ title ∈ shared, fresh title ∉ a.titles
  not_right : ∀ title ∈ shared, fresh title ∉ b.titles
  distinct : ∀ title ∈ shared, ∀ other ∈ shared, fresh title = fresh other → title = other

def TrimmedUnder (t : Table) (titles : List String) : Prop :=
  ∀ row ∈ t.rows, ∀ title ∈ titles, ∀ cell, Row.Has t.titles row title cell → Text.Trimmed cell

variable {a b : Table} {shared : List String} {fresh : String → String} {l r : Row}
  {title other : String}

theorem trimmedUnder_of_cells {t : Table} (h : ∀ row ∈ t.rows, ∀ cell ∈ row, Text.Trimmed cell)
    (titles : List String) : t.TrimmedUnder titles := by
  rintro row hrow title - cell ⟨k, -, hcell⟩
  exact h row hrow cell (List.mem_of_getElem? hcell)

theorem rename_of_not_mem (h : title ∉ a.titles) : rename a fresh title = title := if_neg h

theorem width_apart : (apart a b fresh).width = b.width := List.length_map _

namespace Freshens

variable (h : Freshens a b shared fresh)

include h

theorem rename_shared (ht : title ∈ shared) : rename a fresh title = fresh title :=
  if_pos ((h.mem_shared title).mp ht).1

/-- Only a title of `b` itself gets the name of a title of `b`, or a name that is not a fresh
one. -/
theorem rename_inj (ho : other ∈ b.titles)
    (ht : title ∈ b.titles ∨ title ∉ a.titles ∧ title ∉ shared.map fresh)
    (he : rename a fresh other = rename a fresh title) : other = title := by
  rw [rename, rename] at he
  -- a fresh title is no title of `b`, so both of them have been renamed or neither has
  split at he <;> rename_i hoa
  · have hos : other ∈ shared := (h.mem_shared other).mpr ⟨hoa, ho⟩
    obtain ht | ⟨hta, hfresh⟩ := ht
    · split at he <;> rename_i hta
      · exact h.distinct other hos title ((h.mem_shared title).mpr ⟨hta, ht⟩) he
      · exact absurd (he ▸ ht) (h.not_right other hos)
    · rw [if_neg hta] at he
      exact absurd (he ▸ List.mem_map_of_mem hos) hfresh
  · split at he <;> rename_i hta
    · obtain ht | ⟨hta', -⟩ := ht
      · exact absurd (he ▸ ho) (h.not_right title ((h.mem_shared title).mpr ⟨hta, ht⟩))
      · exact absurd hta hta'
    · exact he

theorem not_mem_left (ht : title ∈ (apart a b fresh).titles) : title ∉ a.titles := by
  obtain ⟨other, ho, rfl⟩ := List.mem_map.mp ht
  rw [rename]
  split <;> rename_i hoa
  · exact h.not_left other ((h.mem_shared other).mpr ⟨hoa, ho⟩)
  · exact hoa

theorem mem_apart_iff (hta : title ∉ a.titles) (hfresh : title ∉ shared.map fresh) :
    title ∈ (apart a b fresh).titles ↔ title ∈ b.titles := by
  constructor
  · intro ht
    obtain ⟨other, ho, he⟩ := List.mem_map.mp ht
    rw [← rename_of_not_mem hta] at he
    exact h.rename_inj ho (.inr ⟨hta, hfresh⟩) he ▸ ho
  · intro ht
    exact List.mem_map.mpr ⟨title, ht, rename_of_not_mem hta⟩

theorem mem_joined_iff (hfresh : title ∉ shared.map fresh) :
    title ∈ a.titles ++ ownTitles a (apart a b fresh) ↔ title ∈ a.titles ++ ownTitles a b := by
  rw [mem_joinedTitles, mem_joinedTitles]
  by_cases hta : title ∈ a.titles
  · simp [hta]
  · rw [h.mem_apart_iff hta hfresh]

theorem mem_joined_of_equation
    (hc : title ∈ (equations shared fresh).flatMap Condition.columns) :
    title ∈ a.titles ++ ownTitles a (apart a b fresh) := by
  obtain ⟨other, ho, hc⟩ := mem_columns_equations.mp hc
  obtain ⟨hoa, hob⟩ := (h.mem_shared other).mp ho
  rw [mem_joinedTitles]
  obtain rfl | rfl := hc
  · exact .inr (List.mem_map.mpr ⟨other, hob, h.rename_shared ho⟩)
  · exact .inl hoa

theorem nodup_apart (hb : b.titles.Nodup) : (apart a b fresh).titles.Nodup :=
  hb.map_on fun _ ho _ ht he => h.rename_inj ho (.inl ht) he

theorem valid_apart (hb : b.Valid) : (apart a b fresh).Valid where
  titles_ne_nil hnil := hb.titles_ne_nil (List.map_eq_nil_iff.mp hnil)
  titles_nodup := h.nodup_apart hb.titles_nodup
  width_eq row hrow := (hb.width_eq row hrow).trans width_apart.symm
  index_perm := hb.index_perm
  ascending := hb.ascending

theorem cell?_apart (hta : title ∉ a.titles) (hfresh : title ∉ shared.map fresh) :
    Row.cell? (apart a b fresh).titles r title = Row.cell? b.titles r title := by
  have hcell : Row.cell? (apart a b fresh).titles r (rename a fresh title) = _ :=
    Row.cell?_map fun other ho he => h.rename_inj ho (.inr ⟨hta, hfresh⟩) he
  rwa [rename_of_not_mem hta] at hcell

theorem cell?_fresh (ht : title ∈ shared) :
    Row.cell? (apart a b fresh).titles r (fresh title) = Row.cell? b.titles r title := by
  have hcell : Row.cell? (apart a b fresh).titles r (rename a fresh title) = _ :=
    Row.cell?_map fun other ho he => h.rename_inj ho (.inl ((h.mem_shared title).mp ht).2) he
  rwa [h.rename_shared ht] at hcell

theorem agree_apart (hb : b.titles.Nodup) (hr : r.length = b.width) :
    agree a (apart a b fresh) l r := by
  rw [agree_iff (h.nodup_apart hb) (hr.trans width_apart.symm)]
  intro title x y hx hy
  exact absurd (Row.mem_of_cell? hx).1 (h.not_mem_left (Row.mem_of_cell? hy).1)

section Rows

variable (hl : l.length = a.width) (hr : r.length = b.width)

include hl hr

theorem cell?_combine_apart (hfresh : title ∉ shared.map fresh) :
    Row.cell? (a.titles ++ ownTitles a (apart a b fresh)) (combine a (apart a b fresh) l r) title =
      Row.cell? (a.titles ++ ownTitles a b) (combine a b l r) title := by
  have hr' : r.length = (apart a b fresh).width := hr.trans width_apart.symm
  by_cases hta : title ∈ a.titles
  · rw [cell?_combine_left hl hr' hta, cell?_combine_left hl hr hta]
  · rw [cell?_combine hl hr', cell?_combine hl hr, h.cell?_apart hta hfresh]

theorem equation_holds_iff (ht : title ∈ shared) {x y : String}
    (hx : Row.cell? a.titles l title = some x) (hy : Row.cell? b.titles r title = some y) :
    Condition.holds (a.titles ++ ownTitles a (apart a b fresh)) (combine a (apart a b fresh) l r)
      ⟨title, .equal, .column (fresh title)⟩ ↔ Text.trim x = Text.trim y := by
  have hr' : r.length = (apart a b fresh).width := hr.trans width_apart.symm
  have hta := ((h.mem_shared title).mp ht).1
  have hnone : Row.cell? a.titles l (fresh title) = none :=
    Option.eq_none_iff_forall_ne_some.mpr fun _ hc =>
      h.not_left title ht (Row.mem_of_cell? hc).1
  rw [Condition.holds, Operand.value?, cell?_combine_left hl hr' hta, cell?_combine hl hr', hnone,
    Option.none_or, h.cell?_fresh ht, hx, hy]
  simp [Comparison.holds]

theorem all_equations_iff (hb : b.titles.Nodup)
    (hx : ∀ title ∈ shared, ∀ x, Row.cell? a.titles l title = some x → Text.Trimmed x)
    (hy : ∀ title ∈ shared, ∀ y, Row.cell? b.titles r title = some y → Text.Trimmed y) :
    (equations shared fresh).all (Condition.holds (a.titles ++ ownTitles a (apart a b fresh))
      (combine a (apart a b fresh) l r)) ↔ agree a b l r := by
  have hagree : agree a b l r ↔
      ∀ title ∈ shared, Row.cell? a.titles l title = Row.cell? b.titles r title := by
    simp only [agree_iff_shared hb hl hr, h.mem_shared, and_imp]
  rw [hagree, equations, List.all_map, List.all_eq_true]
  apply forall₂_congr
  intro title ht
  obtain ⟨hta, htb⟩ := (h.mem_shared title).mp ht
  obtain ⟨x, hxl⟩ := Row.exists_cell?_of_mem hl hta
  obtain ⟨y, hyr⟩ := Row.exists_cell?_of_mem hr htb
  rw [Function.comp_apply, h.equation_holds_iff hl hr ht hxl hyr,
    Text.trim_eq_self_iff.mpr (hx title ht x hxl), Text.trim_eq_self_iff.mpr (hy title ht y hyr),
    hxl, hyr, Option.some_inj]

end Rows

section Joined

variable {ab ab' : Table} {columns names names' : List String} {conditions : List Condition}
  (habt : ab.titles = a.titles ++ ownTitles a b)
  (habt' : ab'.titles = a.titles ++ ownTitles a (apart a b fresh))
  (hq : ∀ column ∈ Query.allColumns ⟨columns, names, conditions⟩, column ∉ shared.map fresh)

include habt habt' hq

theorem resolve_eq :
    ab'.resolve ⟨columns, names', conditions ++ equations shared fresh⟩ =
      ab.resolve ⟨columns, names, conditions⟩ := by
  have hcolumns : Query.allColumns ⟨columns, names', conditions ++ equations shared fresh⟩ =
      Query.allColumns ⟨columns, names, conditions⟩ ++
        (equations shared fresh).flatMap Condition.columns := by
    simp [Query.allColumns]
  have hequations : ((equations shared fresh).flatMap Condition.columns).find? (· ∉ ab'.titles) =
      none := by
    rw [List.find?_eq_none]
    intro column hc
    rw [habt', decide_eq_true_iff, not_not]
    exact h.mem_joined_of_equation hc
  have hfind : (Query.allColumns ⟨columns, names, conditions⟩).find? (· ∉ ab'.titles) =
      (Query.allColumns ⟨columns, names, conditions⟩).find? (· ∉ ab.titles) := by
    apply List.find?_congr
    intro column hc
    rw [habt, habt', decide_eq_decide, h.mem_joined_iff (hq column hc)]
  rw [resolve, resolve, hcolumns, List.find?_append, hequations, Option.or_none, hfind]

variable (ha : a.Valid) (hb : b.Valid) (hta : a.TrimmedUnder shared) (htb : b.TrimmedUnder shared)

include ha hb hta htb

theorem keeps_eq (hl : l ∈ a.rows) (hr : r ∈ b.rows) :
    (Query.holds ⟨columns, names', conditions ++ equations shared fresh⟩ ab'.titles
        (combine a (apart a b fresh) l r) && agree a (apart a b fresh) l r) =
      (Query.holds ⟨columns, names, conditions⟩ ab.titles (combine a b l r) && agree a b l r) := by
  have hlw := ha.width_eq l hl
  have hrw := hb.width_eq r hr
  have hconditions : conditions.all
        (Condition.holds ab'.titles (combine a (apart a b fresh) l r)) =
      conditions.all (Condition.holds ab.titles (combine a b l r)) := by
    rw [habt, habt']
    refine Query.holds_congr (q := ⟨columns, names, conditions⟩) fun c hc column hm => ?_
    apply h.cell?_combine_apart hlw hrw
    exact hq column (List.mem_append_right _ (List.mem_flatMap.mpr ⟨c, hc, hm⟩))
  have hequations : (equations shared fresh).all
      (Condition.holds ab'.titles (combine a (apart a b fresh) l r)) = agree a b l r := by
    rw [habt', Bool.eq_iff_iff]
    apply h.all_equations_iff hlw hrw hb.titles_nodup
    · exact fun title ht x hx => hta l hl title ht x ((Row.has_iff ha.titles_nodup hlw).mpr hx)
    · exact fun title ht y hy => htb r hr title ht y ((Row.has_iff hb.titles_nodup hrw).mpr hy)
  rw [Query.holds, Query.holds, List.all_append, hconditions, hequations,
    h.agree_apart hb.titles_nodup hrw, Bool.and_true]

theorem selectedRows_eq (habr : ab.rows = joinedRows a b)
    (habr' : ab'.rows = joinedRows a (apart a b fresh)) :
    ab'.selectedRows ⟨columns, names', conditions ++ equations shared fresh⟩ =
      ab.selectedRows ⟨columns, names, conditions⟩ := by
  rw [selectedRows, selectedRows, habr, habr', filter_joinedRows, filter_joinedRows,
    List.map_flatMap, List.map_flatMap]
  apply List.flatMap_congr
  intro l hl
  have hpairs : (apart a b fresh).rows.filter (fun r =>
        Query.holds ⟨columns, names', conditions ++ equations shared fresh⟩ ab'.titles
          (combine a (apart a b fresh) l r) && agree a (apart a b fresh) l r) =
      b.rows.filter (fun r => Query.holds ⟨columns, names, conditions⟩ ab.titles
        (combine a b l r) && agree a b l r) :=
    List.filter_congr fun r hr => h.keeps_eq habt habt' hq ha hb hta htb hl hr
  rw [hpairs, List.map_map, List.map_map]
  apply List.map_congr_left
  intro r hr
  apply Row.select_congr
  intro column hc
  rw [habt, habt']
  exact h.cell?_combine_apart (ha.width_eq l hl) (hb.width_eq r (List.mem_filter.mp hr).1)
    (hq column (List.mem_append_left _ hc))

omit habt habt'

theorem select_eq :
    (a.join b >>= fun ab => ab.select ⟨columns, names, conditions⟩) =
      a.join (apart a b fresh) >>= fun ab' =>
        ab'.select ⟨columns, names', conditions ++ equations shared fresh⟩ := by
  obtain ⟨ab, hjoin, -, habt, habr⟩ := ha.join_eq_ok hb
  obtain ⟨ab', hjoin', -, habt', habr'⟩ := ha.join_eq_ok (h.valid_apart hb)
  rw [hjoin, hjoin']
  exact (select_congr (h.resolve_eq habt habt' hq) rfl
    (h.selectedRows_eq habt habt' hq ha hb hta htb habr habr')).symm

end Joined

end Freshens

end Table

theorem Reader.trimmed_of_insert {r : Reader} {table : String} {rows : List Row}
    (h : r.statement.1 = .ok (.insert table rows)) {row : Row} (hrow : row ∈ rows) {cell : String}
    (hcell : cell ∈ row) : Text.Trimmed cell := by
  obtain ⟨tokens, -, hs⟩ | ⟨hexit, -⟩ := cases_of_statement h
  · obtain ⟨-, hspelled⟩ := Word.sentence_iff.mp hs
    obtain ⟨kind, -, written, -, rfl⟩ :=
      Word.exists_literal_of_mem hspelled (Word.literal_mem_insert hrow hcell)
    exact Text.trimmed_trim written
  · cases hexit

namespace Database

/-- A query over the join of two tables is a query over all pairs of their rows, with conditions on
the columns they share: when these have other titles in the second table, and the conditions say
that the cells under either title are the same, then there is the same answer, or the same fault.
The cells must have no blanks at their ends, and so it is with those of any statement that is
read. -/
theorem select_by_equations :
    (∀ (db : Database) (a b : Table) (shared : List String) (fresh : String → String),
      a.Valid → b.Valid → Table.Freshens a b shared fresh →
      a.TrimmedUnder shared → b.TrimmedUnder shared →
      (Table.apart a b fresh).Valid ∧
      ∀ first second renamed, db.get? first = some a → db.get? second = some b →
        db.get? renamed = some (Table.apart a b fresh) → ∀ columns conditions,
        (∀ column ∈ Query.allColumns ⟨columns, [first, second], conditions⟩,
          column ∉ shared.map fresh) →
        db.select ⟨columns, [first, second], conditions⟩ =
          db.select ⟨columns, [first, renamed], conditions ++ equations shared fresh⟩) ∧
    ∀ (r : Reader) table rows, r.statement.1 = .ok (.insert table rows) →
      ∀ row ∈ rows, ∀ cell ∈ row, Text.Trimmed cell := by
  refine ⟨fun db a b shared fresh ha hb h hta htb => ⟨h.valid_apart hb, ?_⟩,
    fun r table rows hr row hrow cell => Reader.trimmed_of_insert hr hrow⟩
  intro first second renamed hfirst hsecond hrenamed columns conditions hq
  rw [select_of_two hfirst hsecond, select_of_two hfirst hrenamed]
  exact h.select_eq hq ha hb hta htb

theorem select_by_equations_on_two_columns :
    let a : Table :=
      ⟨["k", "x", "m"], [["1", "p", "u"], ["2", "q", "u"], ["1", "q", "v"]], [0, 2, 1]⟩
    let b : Table :=
      ⟨["m", "y", "k"], [["u", "w", "2"], ["u", "z", "1"], ["v", "w", "2"]], [0, 1, 2]⟩
    let b' : Table := ⟨["m2", "y", "k2"], b.rows, b.index⟩
    let db := ((Database.empty.put "a" a).put "b" b).put "c" b'
    let ahead : List Token := [⟨.keyword .insert, 1⟩, ⟨.keyword .into, 1⟩, ⟨.identifier "a", 1⟩,
      ⟨.keyword .values, 1⟩, ⟨.leftParen, 1⟩, ⟨.literal " u\t", 1⟩, ⟨.rightParen, 1⟩,
      ⟨.semicolon, 1⟩]
    let r : Reader := ⟨⟨.ofLines [], ahead, []⟩, true⟩
    (a.Valid ∧ b.Valid ∧ b'.Valid ∧ a.TrimmedUnder ["k", "m"] ∧ b.TrimmedUnder ["k", "m"]) ∧
      db.select ⟨["y", "k"], ["a", "b"], [⟨"m", .less, .column "y"⟩]⟩ =
        db.select ⟨["y", "k"], ["a", "c"], [⟨"m", .less, .column "y"⟩,
          ⟨"k", .equal, .column "k2"⟩, ⟨"m", .equal, .column "m2"⟩]⟩ ∧
      r.statement.1 = .ok (.insert "a" [["u"]]) ∧ Text.Trimmed "u" := by
  intro a b b' db ahead r
  have ha : a.Valid := by constructor <;> decide
  have hb : b.Valid := by constructor <;> decide
  have hfresh : Table.Freshens a b ["k", "m"] (· ++ "2") := by
    refine ⟨fun title => ?_, by decide, by decide, by decide⟩
    simp only [a, b, List.mem_cons, List.not_mem_nil, or_false]
    grind
  have hcells : ∀ row ∈ a.rows ++ b.rows, ∀ cell ∈ row, Text.Trimmed cell := by
    simp only [← Text.trim_eq_self_iff]
    decide
  obtain ⟨hacells, hbcells⟩ := List.forall_mem_append.mp hcells
  have hta := Table.trimmedUnder_of_cells hacells ["k", "m"]
  have htb := Table.trimmedUnder_of_cells hbcells ["k", "m"]
  have hread : r.statement.1 = .ok (.insert "a" [["u"]]) := r.statement_eq_reading.trans (by rfl)
  have hall := select_by_equations.1 db a b _ _ ha hb hfresh hta htb
  have hselect := hall.2 "a" "b" "c" (by simp [db, get?_put]) (by simp [db, get?_put])
    (by simp [db, get?_put]; rfl) ["y", "k"] [⟨"m", .less, .column "y"⟩] (by decide)
  exact ⟨⟨ha, hb, hall.1, hta, htb⟩, hselect, hread,
    select_by_equations.2 r _ _ hread _ List.mem_cons_self _ List.mem_cons_self⟩

/-- A join sees a blank at the end of a cell, and a condition does not. -/
example :
    let t : Table := ⟨["k"], [["u"]], [0]⟩
    let db := ((empty.put "a" t).put "b" ⟨["k"], [["u "]], [0]⟩).put "c" ⟨["k2"], [["u "]], [0]⟩
    db.select ⟨["k"], ["a", "b"], []⟩ = .ok ⟨["k"], [], []⟩ ∧
      db.select ⟨["k"], ["a", "c"], equations ["k"] (· ++ "2")⟩ = .ok t := by
  decide +kernel

end Database

end TableShell
