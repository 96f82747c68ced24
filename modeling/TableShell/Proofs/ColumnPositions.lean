import Mathlib.Data.List.ProdSigma
import Mathlib.Data.List.ReduceOption
import TableShell.Proofs.ColumnCells
import TableShell.Proofs.JoinRows
import TableShell.Proofs.SelectRows
import TableShell.Proofs.TableResults

namespace TableShell

theorem mapM_eq_filterMap {α β : Type} {f : α → Option β} {as : List α}
    (h : ∀ a ∈ as, (f a).isSome) : as.mapM f = some (as.filterMap f) := by
  induction as with
  | nil => rfl
  | cons a rest ih =>
    obtain ⟨ha, hrest⟩ := List.forall_mem_cons.mp h
    obtain ⟨b, hb⟩ := Option.isSome_iff_exists.mp ha
    rw [List.mapM_cons, ih hrest, List.filterMap_cons_some hb, hb]
    rfl

theorem reduceOption_map_ite {α β : Type} (p : α → Bool) (f : α → β) (as : List α) :
    (as.map fun a => if p a then some (f a) else none).reduceOption = (as.filter p).map f := by
  rw [List.reduceOption, List.filterMap_map, ← List.filterMap_eq_map, List.filterMap_filter]
  rfl

theorem Row.getElem?_idxOf {titles : List String} {row : Row} (hw : row.length = titles.length)
    (title : String) : row[titles.idxOf title]? = cell? titles row title := by
  induction titles generalizing row with
  | nil =>
    rw [List.length_eq_zero_iff.mp hw]
    rfl
  | cons first rest ih =>
    cases row with
    | nil => cases hw
    | cons cell cells =>
      rw [cell?, List.zip_cons_cons, List.lookup_cons]
      by_cases he : title = first
      · subst he
        simp
      · have hb : (title == first) = false := by simpa using he
        rw [hb, List.idxOf_cons_ne _ (Ne.symm he), List.getElem?_cons_succ]
        exact ih (by simpa using hw)

theorem Row.getD_idxOf {titles : List String} {row : Row} {title cell : String}
    (hw : row.length = titles.length) (h : cell? titles row title = some cell) :
    row.getD (titles.idxOf title) "" = cell := by
  rw [List.getD_eq_getElem?_getD, getElem?_idxOf hw, h]
  rfl

namespace Table

theorem column?_eq_some_iff {t : Table} {title : String} {k : Nat} :
    t.column? title = some k ↔ title ∈ t.titles ∧ t.titles.idxOf title = k := by
  rw [column?, List.idxOf_eq_getD_idxOf?]
  cases h : t.titles.idxOf? title with
  | none => simp [List.idxOf?_eq_none_iff.mp h]
  | some j =>
    have hmem : title ∈ t.titles := by
      by_contra hn
      rw [List.idxOf?_eq_none_iff.mpr hn] at h
      cases h
    simp [hmem]

theorem isNone_column? (t : Table) (title : String) :
    (t.column? title).isNone = decide (title ∉ t.titles) := by
  rw [column?, Bool.eq_iff_iff, Option.isNone_iff_eq_none, List.idxOf?_eq_none_iff,
    decide_eq_true_iff]

section Join

def shared (left right : Table) : List (Nat × Nat) :=
  left.titles.zipIdx.filterMap fun column => (right.column? column.1).map (column.2, ·)

def ownPositions (left right : Table) : List Nat :=
  (right.titles.zipIdx.filter fun column => (left.column? column.1).isNone).map Prod.snd

/-- Every shared column is looked up in both rows, also after one that differs. -/
def agree? (shared : List (Nat × Nat)) (l r : Row) : Option Bool := do
  let cells ← shared.mapM fun positions => return (← l[positions.1]?, ← r[positions.2]?)
  return cells.all fun pair => pair.1 = pair.2

def combine? (shared : List (Nat × Nat)) (own : List Nat) (pair : Row × Row) :
    Option (Option Row) := do
  if ← agree? shared pair.1 pair.2 then return some (pair.1 ++ (← own.mapM (pair.2[·]?)))
  else return none

def join? (left right : Table) : Option (Except Fault Table) := do
  let own := ownPositions left right
  match ← ofTitles? (left.titles ++ (← own.mapM (right.titles[·]?))) with
  | .error fault => return .error fault
  | .ok joined =>
    let pairs := (← left.rows?).product (← right.rows?)
    let combined ← pairs.mapM (combine? (shared left right) own)
    joined.insertAll? combined.reduceOption

variable {left right : Table} {l r : Row}

theorem zip_eq_map_zipIdx {α β : Type} {as : List α} {bs : List β} (h : bs.length = as.length)
    (b : β) : as.zip bs = as.zipIdx.map fun column => (column.1, bs.getD column.2 b) := by
  apply List.ext_getElem
  · simp [h]
  · intro k hk _
    have hb : k < bs.length := by
      rw [List.length_zip] at hk
      omega
    simp [hb]

theorem mapM_ownPositions {cells : List String} (h : cells.length = right.titles.length) :
    (ownPositions left right).mapM (cells[·]?) =
      some (((right.titles.zip cells).filter (fun column => column.1 ∉ left.titles)).map
        Prod.snd) := by
  have hcell : ∀ k ∈ ownPositions left right, cells[k]? = some (cells.getD k "") := by
    intro k hk
    obtain ⟨column, hc, rfl⟩ := List.mem_map.mp hk
    obtain ⟨hlt, -⟩ :=
      List.getElem?_eq_some_iff.mp (List.mem_zipIdx_iff_getElem?.mp (List.mem_filter.mp hc).1)
    rw [← h] at hlt
    simp [hlt]
  rw [mapM_eq_some hcell, zip_eq_map_zipIdx h "", List.filter_map, List.map_map, ownPositions,
    List.map_map]
  simp only [isNone_column?]
  rfl

theorem mapM_titles (left right : Table) :
    (ownPositions left right).mapM (right.titles[·]?) = some (ownTitles left right) := by
  have hzip : right.titles.zip right.titles = right.titles.map fun title => (title, title) := by
    simpa using List.zip_map' (f := id) (g := id) (l := right.titles)
  rw [mapM_ownPositions rfl, hzip, List.filter_map, List.map_map, ownTitles]
  exact congrArg some (List.map_id _)

theorem mem_shared (h : left.titles.Nodup) {positions : Nat × Nat} :
    positions ∈ shared left right ↔ ∃ title ∈ left.titles, title ∈ right.titles ∧
      positions = (left.titles.idxOf title, right.titles.idxOf title) := by
  simp only [shared, List.mem_filterMap, Prod.exists, List.mem_zipIdx_iff_getElem?,
    Option.map_eq_some_iff, column?_eq_some_iff]
  constructor
  · rintro ⟨title, i, hi, j, ⟨hmem, rfl⟩, rfl⟩
    obtain ⟨hlt, rfl⟩ := List.getElem?_eq_some_iff.mp hi
    exact ⟨_, List.getElem_mem hlt, hmem, by rw [h.idxOf_getElem]⟩
  · rintro ⟨title, hleft, hright, rfl⟩
    exact ⟨title, _, List.getElem?_idxOf hleft, _, ⟨hright, rfl⟩, rfl⟩

theorem agree?_eq (hl : left.titles.Nodup) (hr : right.titles.Nodup)
    (hlw : l.length = left.width) (hrw : r.length = right.width) :
    agree? (shared left right) l r = some (agree left right l r) := by
  have hcells : ∀ positions ∈ shared left right, ∃ title x y,
      Row.cell? left.titles l title = some x ∧ Row.cell? right.titles r title = some y ∧
        positions = (left.titles.idxOf title, right.titles.idxOf title) := by
    intro positions hp
    obtain ⟨title, hleft, hright, he⟩ := (mem_shared hl).mp hp
    obtain ⟨x, hx⟩ := Row.exists_cell?_of_mem hlw hleft
    obtain ⟨y, hy⟩ := Row.exists_cell?_of_mem hrw hright
    exact ⟨title, x, y, hx, hy, he⟩
  have hfound : ∀ positions ∈ shared left right,
      (do return (← l[positions.1]?, ← r[positions.2]?) : Option (String × String)) =
        some (l.getD positions.1 "", r.getD positions.2 "") := by
    intro positions hp
    obtain ⟨title, x, y, hx, hy, rfl⟩ := hcells positions hp
    rw [Row.getD_idxOf hlw hx, Row.getD_idxOf hrw hy, Row.getElem?_idxOf hlw,
      Row.getElem?_idxOf hrw, hx, hy]
    rfl
  rw [agree?, mapM_eq_some hfound]
  apply congrArg some
  rw [Bool.eq_iff_iff, agree_iff hr hrw, List.all_map, List.all_eq_true]
  constructor
  · intro hall title x y hx hy
    have hleft := (List.of_mem_zip ((Row.cell?_eq_some_iff hl hlw).mp hx)).1
    have hright := (List.of_mem_zip ((Row.cell?_eq_some_iff hr hrw).mp hy)).1
    have he := hall _ ((mem_shared hl).mpr ⟨title, hleft, hright, rfl⟩)
    rw [← Row.getD_idxOf hlw hx, ← Row.getD_idxOf hrw hy]
    exact of_decide_eq_true he
  · intro hall positions hp
    obtain ⟨title, x, y, hx, hy, rfl⟩ := hcells positions hp
    apply decide_eq_true
    dsimp only
    rw [Row.getD_idxOf hlw hx, Row.getD_idxOf hrw hy]
    exact hall title x y hx hy

theorem combine?_eq (hl : left.titles.Nodup) (hr : right.titles.Nodup)
    (hlw : l.length = left.width) (hrw : r.length = right.width) :
    combine? (shared left right) (ownPositions left right) (l, r) =
      some (if agree left right l r then some (combine left right l r) else none) := by
  rw [combine?, agree?_eq hl hr hlw hrw, mapM_ownPositions hrw]
  cases agree left right l r <;> rfl

theorem reduceOption_combined (ls rs : List Row) :
    ((ls.product rs).map fun pair =>
        if agree left right pair.1 pair.2 then some (combine left right pair.1 pair.2)
        else none).reduceOption =
      ls.flatMap fun l => (rs.filter (agree left right l)).map (combine left right l) := by
  rw [reduceOption_map_ite fun pair : Row × Row => agree left right pair.1 pair.2, List.product,
    List.filter_flatMap, List.map_flatMap]
  apply congrArg (ls.flatMap ·)
  funext l
  rw [List.filter_map, List.map_map]
  rfl

theorem Valid.join?_eq (hl : left.Valid) (hr : right.Valid) :
    left.join? right = some (left.join right) := by
  have hcombined : ∀ pair ∈ left.rows.product right.rows,
      combine? (shared left right) (ownPositions left right) pair =
        some (if agree left right pair.1 pair.2 then some (combine left right pair.1 pair.2)
          else none) := by
    rintro ⟨l, r⟩ hp
    obtain ⟨hlm, hrm⟩ := List.pair_mem_product.mp hp
    exact combine?_eq hl.titles_nodup hr.titles_nodup (hl.width_eq l hlm) (hr.width_eq r hrm)
  rw [join?, Table.join, mapM_titles]
  simp only [Option.bind_eq_bind, Option.bind_some]
  rw [ofTitles?_eq, hl.rows?_eq, hr.rows?_eq]
  simp only [Option.bind_some]
  rw [mapM_eq_some hcombined]
  cases hstart : ofTitles (left.titles ++ ownTitles left right) with
  | error fault => rfl
  | ok joined =>
    dsimp only
    rw [Option.bind_some, reduceOption_combined]
    exact (valid_ofTitles hstart).insertAll?_eq _

end Join

section Binding

variable (t : Table)

def position (title : String) : Except Fault Nat :=
  match t.column? title with
  | some k => .ok k
  | none => .error (.unknownColumn title)

def found {α : Type} (titles : List String) (a : α) : Except Fault α :=
  match titles.find? (· ∉ t.titles) with
  | some title => .error (.unknownColumn title)
  | none => .ok a

theorem found_append {α : Type} (titles titles' : List String) (a : α) :
    t.found (titles ++ titles') a = t.found titles () >>= fun _ => t.found titles' a := by
  rw [found, found, found, List.find?_append]
  cases titles.find? (· ∉ t.titles) <;> rfl

theorem map_found {α β : Type} (f : α → β) (titles : List String) (a : α) :
    (t.found titles a).map f = t.found titles (f a) := by
  rw [found, found]
  cases titles.find? (· ∉ t.titles) <;> rfl

theorem bind_found {α β : Type} (f : α → Except Fault β) (titles : List String) (a : α) :
    t.found titles a >>= f = t.found titles () >>= fun _ => f a := by
  rw [found, found]
  cases titles.find? (· ∉ t.titles) <;> rfl

theorem position_eq (title : String) : t.position title = t.found [title] (t.titles.idxOf title) := by
  by_cases h : title ∈ t.titles
  · rw [position, column?_eq_some_iff.mpr ⟨h, rfl⟩]
    simp [found, h]
  · have hnone : t.column? title = none := List.idxOf?_eq_none_iff.mpr h
    rw [position, hnone]
    simp [found, h]

theorem mapM_found {α β : Type} {f : α → Except Fault β} {titles : α → List String} {g : α → β}
    (h : ∀ a, f a = t.found (titles a) (g a)) (as : List α) :
    as.mapM f = t.found (as.flatMap titles) (as.map g) := by
  induction as with
  | nil => rfl
  | cons a rest ih =>
    rw [List.mapM_cons, ih, h, bind_found, List.flatMap_cons, found_append]
    apply congrArg (t.found (titles a) () >>= ·)
    funext _
    exact t.map_found (g a :: ·) (rest.flatMap titles) (rest.map g)

end Binding

end Table

inductive BoundOperand
  | literal (value : String)
  | column (position : Nat)

structure BoundCondition where
  column : Nat
  comparison : Comparison
  operand : BoundOperand

namespace BoundCondition

def right? (row : Row) : BoundOperand → Option String
  | .literal value => some value
  | .column k => row[k]?

def holds? (row : Row) (b : BoundCondition) : Option Bool := do
  let right ← right? row b.operand
  return b.comparison.holds (Text.trim (← row[b.column]?)) (Text.trim right)

end BoundCondition

def Operand.bind (t : Table) : Operand → Except Fault BoundOperand
  | .literal value => .ok (.literal value)
  | .column name => (t.position name).map .column

def Condition.bind (t : Table) (c : Condition) : Except Fault BoundCondition := do
  let operand ← c.operand.bind t
  return ⟨← t.position c.column, c.comparison, operand⟩

def Operand.bound (titles : List String) : Operand → BoundOperand
  | .literal value => .literal value
  | .column name => .column (titles.idxOf name)

def Condition.bound (titles : List String) (c : Condition) : BoundCondition :=
  ⟨titles.idxOf c.column, c.comparison, c.operand.bound titles⟩

theorem Operand.bind_eq (t : Table) (operand : Operand) :
    operand.bind t = t.found operand.columns (operand.bound t.titles) := by
  cases operand with
  | literal value => rfl
  | column name =>
    rw [bind, t.position_eq, t.map_found]
    rfl

theorem Condition.bind_eq (t : Table) (c : Condition) :
    c.bind t = t.found c.columns (c.bound t.titles) := by
  rw [bind, c.operand.bind_eq, t.bind_found, columns, t.found_append]
  apply congrArg (t.found c.operand.columns () >>= ·)
  funext _
  rw [t.position_eq]
  exact t.map_found (BoundCondition.mk · c.comparison (c.operand.bound t.titles)) [c.column] _

theorem Condition.holds?_bound {titles : List String} {row : Row}
    (hw : row.length = titles.length) {c : Condition} (h : ∀ column ∈ c.columns, column ∈ titles) :
    (c.bound titles).holds? row = some (c.holds titles row) := by
  have hcolumn : c.column ∈ titles := h _ (by simp [columns])
  obtain ⟨left, hleft⟩ := Row.exists_cell?_of_mem hw hcolumn
  have hright : ∃ right, BoundCondition.right? row (c.operand.bound titles) = some right ∧
      c.operand.value? titles row = some right := by
    cases ho : c.operand with
    | literal value => exact ⟨value, rfl, rfl⟩
    | column name =>
      have hname : name ∈ titles := h _ (by simp [columns, ho, Operand.columns])
      obtain ⟨cell, hcell⟩ := Row.exists_cell?_of_mem hw hname
      exact ⟨cell, (Row.getElem?_idxOf hw name).trans hcell, hcell⟩
  obtain ⟨right, hfound, hvalue⟩ := hright
  rw [BoundCondition.holds?, bound, hfound, holds, hleft, hvalue, Row.getElem?_idxOf hw, hleft]
  rfl

namespace Table

/-- The cells at the positions if the conditions hold. Every condition is looked at. -/
def project? (positions : List Nat) (conditions : List BoundCondition) (row : Row) :
    Option (Option Row) := do
  if (← conditions.mapM (·.holds? row)).all id then return some (← positions.mapM (row[·]?))
  else return none

def bind (t : Table) (q : Query) : Except Fault (List Nat × List BoundCondition) := do
  let positions ← q.columns.mapM t.position
  return (positions, ← q.conditions.mapM (·.bind t))

def select? (t : Table) (q : Query) : Option (Except Fault Table) :=
  match t.bind q with
  | .error fault => some (.error fault)
  | .ok (positions, conditions) => do
    match ← ofTitles? q.columns with
    | .error fault => return .error fault
    | .ok result =>
      let projected ← (← t.rows?).mapM (project? positions conditions)
      result.insertAll? projected.reduceOption

variable {t : Table} {q : Query} {row : Row}

theorem bind_eq (t : Table) (q : Query) :
    t.bind q = t.found q.allColumns
      (q.columns.map t.titles.idxOf, q.conditions.map (·.bound t.titles)) := by
  have hcolumns : q.columns.flatMap (fun title => [title]) = q.columns := List.flatMap_singleton' _
  rw [bind, t.mapM_found t.position_eq, hcolumns, t.bind_found, Query.allColumns, t.found_append]
  apply congrArg (t.found q.columns () >>= ·)
  funext _
  rw [t.mapM_found (Condition.bind_eq t)]
  exact t.map_found _ _ _

theorem project?_eq (hw : row.length = t.width) (h : ∀ column ∈ q.allColumns, column ∈ t.titles) :
    project? (q.columns.map t.titles.idxOf) (q.conditions.map (·.bound t.titles)) row =
      some (if q.holds t.titles row then some (Row.select t.titles row q.columns) else none) := by
  have hconditions : ∀ c ∈ q.conditions,
      (c.bound t.titles).holds? row = some (c.holds t.titles row) := by
    intro c hc
    apply Condition.holds?_bound hw
    intro column hcolumn
    exact h _ (List.mem_append_right _ (List.mem_flatMap_of_mem hc hcolumn))
  have hcells : ∀ column ∈ q.columns, (Row.cell? t.titles row column).isSome := by
    intro column hc
    rw [Option.isSome_iff_exists]
    exact Row.exists_cell?_of_mem hw (h _ (List.mem_append_left _ hc))
  rw [project?, List.mapM_map, List.mapM_map]
  simp only [Function.comp_def, Row.getElem?_idxOf hw]
  rw [mapM_eq_some hconditions, mapM_eq_filterMap hcells, Query.holds]
  simp only [Option.bind_eq_bind, Option.bind_some, List.all_map]
  change (if q.conditions.all (Condition.holds t.titles row) then _ else _) = _
  cases q.conditions.all (Condition.holds t.titles row) <;> rfl

theorem Valid.select?_eq (h : t.Valid) (q : Query) : t.select? q = some (t.select q) := by
  rw [select?, bind_eq, found, Table.select, resolve]
  cases hmissing : q.allColumns.find? (· ∉ t.titles) with
  | some title => rfl
  | none =>
    -- the titles that were looked for are titles of every row
    have hcolumns : ∀ column ∈ q.allColumns, column ∈ t.titles := by
      simpa using hmissing
    have hprojected : ∀ row ∈ t.rows,
        project? (q.columns.map t.titles.idxOf) (q.conditions.map (·.bound t.titles)) row =
          some (if q.holds t.titles row then some (Row.select t.titles row q.columns) else none) :=
      fun row hr => project?_eq (h.width_eq row hr) hcolumns
    dsimp only
    rw [ofTitles?_eq, h.rows?_eq]
    cases hstart : ofTitles q.columns with
    | error fault => rfl
    | ok result =>
      simp only [Option.bind_eq_bind, Option.bind_some]
      rw [mapM_eq_some hprojected, Option.bind_some, reduceOption_map_ite]
      exact (valid_ofTitles hstart).insertAll?_eq _

end Table

def Database.select? (db : Database) (q : Query) : Option (Except Fault Table) :=
  match q.tables.mapM db.table with
  | .error fault => some (.error fault)
  | .ok [t] => t.select? q
  | .ok [left, right] => do
    match ← left.join? right with
    | .error fault => return .error fault
    | .ok joined =>
      let _ ← joined.size?
      joined.select? q
  | .ok sources => some (.error (.tooManyTables sources.length))

theorem Database.select?_eq {db : Database} (h : db.Valid) (q : Query) :
    db.select? q = some (db.select q) := by
  rw [select?, select]
  cases hs : q.tables.mapM db.table with
  | error fault => rfl
  | ok sources =>
    have hvalid : ∀ t ∈ sources, t.Valid := by
      intro t ht
      obtain ⟨name, hn⟩ := exists_of_mem_mapM hs t ht
      exact h name t hn
    obtain _ | ⟨left, _ | ⟨right, _ | ⟨third, rest⟩⟩⟩ := sources
    · rfl
    · exact (hvalid left List.mem_cons_self).select?_eq q
    · have hl := hvalid left List.mem_cons_self
      have hr := hvalid right (List.mem_cons_of_mem _ List.mem_cons_self)
      simp only [Option.bind_eq_bind, hl.join?_eq hr, Option.bind_some]
      change _ = some (left.join right >>= (·.select q))
      cases hj : left.join right with
      | error fault => rfl
      | ok joined =>
        have hv := Table.valid_join hj
        dsimp only
        rw [hv.size?_eq]
        exact hv.select?_eq q
    · rfl

end TableShell
