import TableShell.Proofs.LinePositions
import TableShell.Proofs.RowCells
import TableShell.Proofs.TableIndex

namespace TableShell

theorem mapM_eq_some {α β : Type} {f : α → Option β} {g : α → β} {as : List α}
    (h : ∀ a ∈ as, f a = some (g a)) : as.mapM f = some (as.map g) := by
  induction as with
  | nil => rfl
  | cons a rest ih =>
    obtain ⟨ha, hrest⟩ := List.forall_mem_cons.mp h
    rw [List.mapM_cons, ha, ih hrest]
    rfl

namespace Table

section Checked

def repeated? (titles : List String) : List (String × Nat) → Option (Option String)
  | [] => some none
  | (title, k) :: rest => do
    if title ∈ (← slice? titles 0 k) then return some title else repeated? titles rest

def ofTitles? (titles : List String) : Option (Except Fault Table) :=
  if titles = [] then some (.error .noColumns)
  else do
    match ← repeated? titles titles.zipIdx with
    | some title => return .error (.duplicateColumn title)
    | none => return .ok ⟨titles, [], []⟩

variable (t : Table)

def size? : Option Nat := t.columns[0]?.map List.length

def cells? (k : Nat) : Option Row := t.columns.mapM (·[k]?)

def rows? : Option (List Row) := do (List.range (← t.size?)).mapM t.cells?

def sortedRows? : Option (List Row) := t.index.mapM t.cells?

def row? (k : Nat) : Option (Except Fault Row) := do
  if (← t.size?) ≤ k then return .error (.invalidAccess k 0) else return .ok (← t.cells? k)

/-- The first column in which a row of the table and another row differ decides. The columns after it
are looked up, too. -/
def compareAt? (row : Row) (k : Nat) : Option Ordering := do
  let orders ← (t.columns.zip row).mapM fun column => (column.1[k]?).map (compare · column.2)
  return (orders.find? (· ≠ .eq)).getD .eq

def rankFrom? (row : Row) : List Nat → Option (Option Nat)
  | [] => some (some 0)
  | k :: later => do
    match ← t.compareAt? row k with
    | .lt => return (← rankFrom? row later).map (· + 1)
    | .eq => return none
    | .gt => return some 0

def insert? (row : Row) : Option (Except Fault (Bool × Table)) :=
  if row.length ≠ t.width then some (.error (.arity t.width row.length))
  else do
    match ← t.rankFrom? row t.index with
    | none => return .ok (false, t)
    | some rank =>
      let position ← t.size?
      if rank ≤ t.index.length then
        return .ok (true, { t with
          rows := t.rows ++ [row]
          index := t.index.insertIdx rank position })
      else none

end Checked

def insertAll? (t : Table) : List Row → Option (Except Fault Table)
  | [] => some (.ok t)
  | row :: rest => do
    match ← t.insert? row with
    | .ok (_, t) => insertAll? t rest
    | .error fault => return .error fault

theorem repeated?_eq {before seen : List String} (rest : List String)
    (h : ∀ title, title ∈ seen ↔ title ∈ before) :
    repeated? (before ++ rest) (rest.zipIdx before.length) = some (firstRepeated? seen rest) := by
  induction rest generalizing before seen with
  | nil => rfl
  | cons title rest ih =>
    have hslice : slice? (before ++ title :: rest) 0 before.length = some before := by
      rw [slice?_of_le (Nat.zero_le _) (by simp)]
      simp
    rw [List.zipIdx_cons, repeated?, hslice, firstRepeated?]
    simp only [Option.bind_eq_bind, Option.bind_some, ← h title]
    split
    · rfl
    · have hlater : repeated? ((before ++ [title]) ++ rest)
          (rest.zipIdx (before ++ [title]).length) = some (firstRepeated? (title :: seen) rest) :=
        ih (by simp [h, or_comm])
      rw [List.append_assoc, List.length_append] at hlater
      exact hlater

theorem ofTitles?_eq (titles : List String) : ofTitles? titles = some (ofTitles titles) := by
  have hrepeated : repeated? ([] ++ titles) (titles.zipIdx 0) = some (firstRepeated? [] titles) :=
    repeated?_eq titles (by simp)
  rw [List.nil_append] at hrepeated
  rw [ofTitles?, ofTitles]
  split
  · rfl
  · rw [hrepeated]
    cases firstRepeated? [] titles <;> rfl

theorem compare_eq_find? {as bs : Row} (h : as.length = bs.length) :
    compare as bs =
      (((as.zip bs).map fun cells => compare cells.1 cells.2).find? (· ≠ .eq)).getD .eq := by
  induction as generalizing bs with
  | nil =>
    cases bs with
    | nil => rfl
    | cons b bs => cases h
  | cons a as ih =>
    cases bs with
    | nil => cases h
    | cons b bs =>
      have hlength : as.length = bs.length := by simpa using h
      have hrest := ih hlength
      rw [List.compare_eq_compareLex, List.compareLex_cons_cons, ← List.compare_eq_compareLex, hrest]
      rw [List.zip_cons_cons, List.map_cons, List.find?_cons]
      cases compare a b <;> rfl

theorem mapM_zip_compare {columns : List (List String)} {cells row : Row} {k : Nat}
    (h : columns.mapM (·[k]?) = some cells) :
    ((columns.zip row).mapM fun column => (column.1[k]?).map (compare · column.2)) =
      some ((cells.zip row).map fun cells => compare cells.1 cells.2) := by
  induction columns generalizing cells row with
  | nil =>
    cases h
    rfl
  | cons column rest ih =>
    rw [List.mapM_cons] at h
    obtain ⟨cell, hcell, h⟩ := Option.bind_eq_some_iff.mp h
    obtain ⟨later, hlater, h⟩ := Option.bind_eq_some_iff.mp h
    cases h
    cases row with
    | nil => rfl
    | cons value values =>
      rw [List.zip_cons_cons, List.mapM_cons, ih hlater, hcell]
      rfl

namespace Valid

variable {t t' : Table} {row : Row}

theorem columns_eq (h : t.Valid) :
    t.columns = (List.range t.width).map fun k => t.rows.map (·.getD k "") := by
  rw [columns]
  apply List.map_congr_left
  intro k hk
  rw [← List.filterMap_eq_map]
  apply List.filterMap_congr
  intro row hr
  have hlt : k < row.length := by
    rw [h.width_eq row hr]
    exact List.mem_range.mp hk
  simp [hlt]

theorem size?_eq (h : t.Valid) : t.size? = some t.size := by
  have hpos : 0 < t.width := List.length_pos_iff.mpr h.titles_ne_nil
  rw [size?, h.columns_eq]
  simp [hpos, size]

theorem cells?_eq (h : t.Valid) {k : Nat} (hk : k < t.size) :
    t.cells? k = some (rowAt t.rows k) := by
  have hcell : ∀ column ∈ t.columns, column[k]? = some (column.getD k "") := by
    intro column hc
    have hlt : k < column.length := by
      rw [h.length_of_mem_columns column hc]
      exact hk
    simp [hlt]
  rw [cells?, mapM_eq_some hcell, h.columns_eq, List.map_map]
  congr 1
  apply List.ext_getElem
  · simp [h.length_rowAt hk]
  · intro i hi hrow
    have hlt : k < t.rows.length := hk
    have hcellAt : i < (t.rows[k]).length := by simpa [rowAt, hlt] using hrow
    simp [rowAt, hlt, hcellAt]

theorem rows?_eq (h : t.Valid) : t.rows? = some t.rows := by
  rw [rows?, h.size?_eq]
  simp only [Option.bind_eq_bind, Option.bind_some]
  rw [mapM_eq_some fun k hk => h.cells?_eq (List.mem_range.mp hk), size, map_rowAt_range]

theorem sortedRows?_eq (h : t.Valid) : t.sortedRows? = some t.sortedRows :=
  mapM_eq_some fun _ hk => h.cells?_eq (h.lt_size hk)

theorem row?_eq (h : t.Valid) (k : Nat) : t.row? k = some (t.row k) := by
  rw [row?, h.size?_eq, row]
  simp only [Option.bind_eq_bind, Option.bind_some]
  split
  · rename_i hk
    rw [List.getElem?_eq_none hk]
    rfl
  · rename_i hk
    have hlt : k < t.rows.length := Nat.lt_of_not_le hk
    rw [h.cells?_eq hlt, List.getElem?_eq_getElem hlt]
    simp [rowAt, hlt]

theorem compareAt?_eq (h : t.Valid) (hw : row.length = t.width) {k : Nat} (hk : k < t.size) :
    t.compareAt? row k = some (compare (rowAt t.rows k) row) := by
  have hlength := (h.length_rowAt hk).trans hw.symm
  rw [compareAt?, mapM_zip_compare (h.cells?_eq hk), compare_eq_find? hlength]
  rfl

theorem rankFrom?_eq (h : t.Valid) (hw : row.length = t.width) {index : List Nat}
    (hi : ∀ k ∈ index, k < t.size) : t.rankFrom? row index = some (rank? t.rows row index) := by
  induction index with
  | nil => rfl
  | cons k later ih =>
    obtain ⟨hk, hlater⟩ := List.forall_mem_cons.mp hi
    rw [rankFrom?, h.compareAt?_eq hw hk, rank?]
    simp only [Option.bind_eq_bind, Option.bind_some]
    cases compare (rowAt t.rows k) row with
    | lt =>
      dsimp only
      rw [ih hlater]
      rfl
    | eq => rfl
    | gt => rfl

theorem insert?_eq (h : t.Valid) (row : Row) : t.insert? row = some (t.insert row) := by
  rw [insert?, Table.insert]
  split
  · rfl
  · rename_i hw
    rw [h.rankFrom?_eq (by simpa using hw) fun k hk => h.lt_size hk, h.size?_eq]
    simp only [Option.bind_eq_bind, Option.bind_some]
    cases hr : rank? t.rows row t.index with
    | none => rfl
    | some rank =>
      obtain ⟨before, after, hi, rfl, -⟩ := split_of_rank?_eq_some hr
      have hle : before.length ≤ t.index.length := by simp [hi]
      exact if_pos hle

theorem insertAll?_eq (h : t.Valid) (rows : List Row) :
    t.insertAll? rows = some (t.insertAll rows) := by
  induction rows generalizing t with
  | nil => rfl
  | cons row rest ih =>
    rw [insertAll?, h.insert?_eq, Table.insertAll, List.foldlM_cons]
    cases hi : t.insert row with
    | error fault => rfl
    | ok inserted => exact ih (h.insert hi)

theorem columns_insert (h : t.Valid) (hi : t.insert row = .ok (true, t')) :
    t'.columns = List.zipWith (fun column cell => column ++ [cell]) t.columns row := by
  obtain ⟨hw, ⟨-, hf, -⟩ | ⟨rank, -, -, rfl⟩⟩ := insert_eq_ok hi
  · cases hf
  · rw [(h.insert hi).columns_eq, h.columns_eq]
    apply List.ext_getElem
    · simp [width, hw]
    · intro i hi hj
      have hcell : i < row.length := by
        rw [hw]
        simpa [width] using hi
      simp [hcell]

end Valid

end Table

end TableShell
