import Mathlib.Data.List.Forall2
import TableShell.Database

namespace TableShell.Database

variable {entries entries' : List (String × Table)} {name : String} {t : Table} {db db' : Database}
  {q : Query}

theorem mem_of_lookup (h : entries.lookup name = some t) : (name, t) ∈ entries := by
  induction entries with
  | nil => cases h
  | cons first rest ih =>
    obtain ⟨other, u⟩ := first
    rw [List.lookup_cons] at h
    split at h
    · rename_i he
      cases h
      rw [eq_of_beq he]
      exact List.mem_cons_self
    · exact List.mem_cons_of_mem _ (ih h)

theorem compare_of_lookup {first : String × Table}
    (h : (first :: entries).Pairwise (fun a b => compare a.1 b.1 = .lt))
    (hl : entries.lookup name = some t) : compare first.1 name = .lt :=
  (List.pairwise_cons.mp h).1 _ (mem_of_lookup hl)

theorem putEntry_of_lookup (h : entries.Pairwise (fun a b => compare a.1 b.1 = .lt))
    (hl : entries.lookup name = some t) : putEntry name t entries = entries := by
  induction entries with
  | nil => cases hl
  | cons first rest ih =>
    obtain ⟨other, u⟩ := first
    rw [List.lookup_cons] at hl
    split at hl
    · rename_i he
      cases hl
      rw [putEntry, eq_of_beq he, Std.compare_self]
    · have hlt := compare_of_lookup h hl
      rw [putEntry, Std.OrientedCmp.gt_iff_lt.mpr hlt]
      exact congrArg _ (ih (List.pairwise_cons.mp h).2 hl)

theorem get?_of_table (h : db.table name = .ok t) : db.get? name = some t := by
  rw [table] at h
  split at h <;> cases h
  assumption

theorem table_of_get? (h : db.get? name = some t) : db.table name = .ok t := by
  rw [table, h]

theorem get?_of_mapM {names : List String} {tables : List Table}
    (h : names.mapM db.table = .ok tables) :
    List.Forall₂ (fun name t => db.get? name = some t) names tables := by
  induction names generalizing tables with
  | nil =>
    cases h
    exact .nil
  | cons name rest ih =>
    rw [List.mapM_cons] at h
    obtain ⟨t, ht, h⟩ := exists_of_bind_eq_ok h
    obtain ⟨later, hl, h⟩ := exists_of_bind_eq_ok h
    cases h
    exact .cons (get?_of_table ht) (ih hl)

theorem exists_of_mem_mapM {names : List String} {tables : List Table}
    (h : names.mapM db.table = .ok tables) : ∀ t ∈ tables, ∃ name, db.get? name = some t := by
  intro t ht
  replace h := get?_of_mapM h
  induction h with
  | nil => cases ht
  | cons hget _ ih =>
    obtain rfl | ht := List.mem_cons.mp ht
    · exact ⟨_, hget⟩
    · exact ih ht

/-- The table that a query is over: the one that it names, or the join of the two. -/
inductive Over (db : Database) (q : Query) : Table → Prop
  | one {name : String} {source : Table} (tables_eq : q.tables = [name])
      (found : db.get? name = some source) : Over db q source
  | two {first second : String} {left right source : Table}
      (tables_eq : q.tables = [first, second]) (found_left : db.get? first = some left)
      (found_right : db.get? second = some right) (joined : left.join right = .ok source) :
      Over db q source

theorem names_of_one {names : List String}
    (h : List.Forall₂ (fun name t => db.get? name = some t) names [t]) :
    ∃ name, names = [name] ∧ db.get? name = some t := by
  obtain ⟨name, _, hname, hnil, rfl⟩ := List.forall₂_cons_right_iff.mp h
  rw [List.forall₂_nil_right_iff.mp hnil]
  exact ⟨name, rfl, hname⟩

theorem names_of_two {names : List String} {left right : Table}
    (h : List.Forall₂ (fun name t => db.get? name = some t) names [left, right]) :
    ∃ first second, names = [first, second] ∧ db.get? first = some left ∧
      db.get? second = some right := by
  obtain ⟨first, _, hfirst, hlater, rfl⟩ := List.forall₂_cons_right_iff.mp h
  obtain ⟨second, rfl, hsecond⟩ := names_of_one hlater
  exact ⟨first, second, rfl, hfirst, hsecond⟩

theorem exists_over_of_select (h : db.select q = .ok t) :
    ∃ source : Table, db.Over q source ∧ source.select q = .ok t := by
  obtain ⟨sources, hsources, h⟩ := exists_of_bind_eq_ok h
  have hfound := get?_of_mapM hsources
  split at h
  · rename_i source
    obtain ⟨name, htables, hname⟩ := names_of_one hfound
    exact ⟨source, .one htables hname, h⟩
  · rename_i left right
    obtain ⟨first, second, htables, hfirst, hsecond⟩ := names_of_two hfound
    obtain ⟨source, hjoin, h⟩ := exists_of_bind_eq_ok h
    exact ⟨source, .two htables hfirst hsecond hjoin, h⟩
  · cases h

theorem select_of_one (h : db.get? name = some t) (columns : List String)
    (conditions : List Condition) :
    db.select ⟨columns, [name], conditions⟩ = t.select ⟨columns, [name], conditions⟩ := by
  rw [select, List.mapM_cons, table_of_get? h]
  rfl

theorem select_of_two {first second : String} {left right : Table}
    (hl : db.get? first = some left) (hr : db.get? second = some right) (columns : List String)
    (conditions : List Condition) :
    db.select ⟨columns, [first, second], conditions⟩ =
      left.join right >>= fun t => t.select ⟨columns, [first, second], conditions⟩ := by
  rw [select, List.mapM_cons, List.mapM_cons, table_of_get? hl, table_of_get? hr]
  rfl

theorem select_of_over {source : Table} (h : db.Over q source) : db.select q = source.select q := by
  obtain ⟨columns, tables, conditions⟩ := q
  cases h with
  | one tables_eq found =>
    obtain rfl : tables = _ := tables_eq
    exact select_of_one found columns conditions
  | two tables_eq found_left found_right joined =>
    obtain rfl : tables = _ := tables_eq
    rw [select_of_two found_left found_right, joined]
    rfl

theorem put_of_get? (h : db.get? name = some t) : db.put name t = db := by
  obtain ⟨entries, ascending⟩ := db
  simp only [put, putEntry_of_lookup ascending h]

theorem lookup_eq_none_of_lt {first : String × Table}
    (h : (first :: entries).Pairwise (fun a b => compare a.1 b.1 = .lt))
    (hlt : compare name first.1 = .lt) : (first :: entries).lookup name = none := by
  cases hl : (first :: entries).lookup name with
  | none => rfl
  | some t =>
    have hne : compare name first.1 ≠ .gt := by simp [hlt]
    obtain rfl | hm := List.mem_cons.mp (mem_of_lookup hl)
    · rw [Std.compare_self] at hlt
      cases hlt
    · exact absurd (Std.OrientedCmp.gt_iff_lt.mpr ((List.pairwise_cons.mp h).1 _ hm)) hne

theorem lookup_later_eq_none (h : ((name, t) :: entries).Pairwise
    (fun a b => compare a.1 b.1 = .lt)) : entries.lookup name = none := by
  cases hl : entries.lookup name with
  | none => rfl
  | some u =>
    have hlt := compare_of_lookup h hl
    rw [Std.compare_self] at hlt
    cases hlt

theorem eq_of_lookup (h : entries.Pairwise (fun a b => compare a.1 b.1 = .lt))
    (h' : entries'.Pairwise (fun a b => compare a.1 b.1 = .lt))
    (hl : ∀ name, entries.lookup name = entries'.lookup name) : entries = entries' := by
  induction entries generalizing entries' with
  | nil =>
    cases entries' with
    | nil => rfl
    | cons first' rest' =>
      obtain ⟨name', t'⟩ := first'
      have hn := hl name'
      simp at hn
  | cons first rest ih =>
    obtain ⟨name, t⟩ := first
    cases entries' with
    | nil =>
      have hn := hl name
      simp at hn
    | cons first' rest' =>
      obtain ⟨name', t'⟩ := first'
      -- the smallest name of each side is found on the other side, so it is the same name
      obtain hc | hc | hc : compare name name' = .lt ∨ compare name name' = .eq ∨
          compare name name' = .gt := by
        cases compare name name' <;> simp
      · have hn := hl name
        rw [lookup_eq_none_of_lt h' hc] at hn
        simp at hn
      · obtain rfl := Std.LawfulEqOrd.eq_of_compare hc
        have hn := hl name
        simp only [List.lookup_cons, beq_self_eq_true, Option.some.injEq] at hn
        obtain rfl := hn
        have hrest : ∀ other, rest.lookup other = rest'.lookup other := by
          intro other
          by_cases ho : other = name
          · subst ho
            rw [lookup_later_eq_none h, lookup_later_eq_none h']
          · have hb : (other == name) = false := by simpa using ho
            simpa [List.lookup_cons, hb] using hl other
        rw [ih (List.pairwise_cons.mp h).2 (List.pairwise_cons.mp h').2 hrest]
      · have hn := hl name'
        rw [lookup_eq_none_of_lt h (Std.OrientedCmp.gt_iff_lt.mp hc)] at hn
        simp at hn

theorem eq_of_get? (h : ∀ name, db.get? name = db'.get? name) : db = db' := by
  obtain ⟨entries, ascending⟩ := db
  obtain ⟨entries', ascending'⟩ := db'
  obtain rfl := eq_of_lookup ascending ascending' h
  rfl

end TableShell.Database
