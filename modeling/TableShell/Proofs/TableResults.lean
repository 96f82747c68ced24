import Mathlib.Data.List.Forall2
import TableShell.Proofs.DatabaseEntries
import TableShell.Proofs.TableIndex
import TableShell.Statement.Effect

namespace TableShell

namespace Table

variable {t start left right : Table} {path : String} {contents : ByteArray}

theorem valid_join (h : left.join right = .ok t) : t.Valid := by
  obtain ⟨joined, ht, hi⟩ := exists_of_bind_eq_ok h
  exact (valid_ofTitles ht).insertAll hi

theorem valid_select {q : Query} (h : Table.select left q = .ok t) : t.Valid := by
  obtain ⟨_, -, h⟩ := exists_of_bind_eq_ok h
  obtain ⟨result, ht, hi⟩ := exists_of_bind_eq_ok h
  exact (valid_ofTitles ht).insertAll hi

theorem eq_ok_of_locate_eq_ok {α : Type} {line : Nat} {x : Except Fault α} {a : α}
    (h : locate path line x = .ok a) : x = .ok a := by
  cases x with
  | error fault => cases h
  | ok b =>
    cases h
    rfl

theorem insertLines_eq_ok_iff {number : Nat} {lines : List (List UInt8)} :
    insertLines path start number lines = .ok t ↔
      ∃ rows, List.Forall₂ (fun line row => Row.ofLine path line = .ok row) lines rows ∧
        start.insertAll rows = .ok t := by
  induction lines generalizing start number with
  | nil =>
    simp only [insertLines, List.forall₂_nil_left_iff, exists_eq_left]
    rfl
  | cons line rest ih =>
    constructor
    · intro h
      obtain ⟨row, hrow, h⟩ := exists_of_bind_eq_ok h
      obtain ⟨inserted, hi, h⟩ := exists_of_bind_eq_ok h
      obtain ⟨rows, hrows, hall⟩ := ih.mp h
      refine ⟨row :: rows, .cons hrow hrows, ?_⟩
      rw [insertAll, List.foldlM_cons, eq_ok_of_locate_eq_ok hi]
      exact hall
    · rintro ⟨rows, hrows, hall⟩
      cases hrows with
      | @cons _ row _ rows hrow hrows =>
        rw [insertAll, List.foldlM_cons] at hall
        obtain ⟨_, hone, hall⟩ := exists_of_bind_eq_ok hall
        obtain ⟨inserted, hi, rfl⟩ := exists_of_map_eq_ok hone
        rw [insertLines, hrow]
        change (locate path number (start.insert row) >>= _) = _
        rw [hi]
        exact ih.mpr ⟨rows, hrows, hall⟩

/-- What is read from a file: the titles of its first line, and the rows of the others where they
first occur. -/
theorem ofFile_eq_ok_iff :
    ofFile path contents = .ok t ↔
      ∃ titles rows start, List.Forall₂ (fun line row => Row.ofLine path line = .ok row)
          (Text.recordLines contents) (titles :: rows) ∧
        ofTitles titles = .ok start ∧ start.insertAll rows = .ok t := by
  rw [ofFile]
  split
  · rename_i hl
    simp [hl]
  · rename_i header lines hl
    rw [hl]
    constructor
    · intro h
      obtain ⟨titles, hheader, h⟩ := exists_of_bind_eq_ok h
      obtain ⟨start, hstart, h⟩ := exists_of_bind_eq_ok h
      obtain ⟨rows, hrows, hall⟩ := insertLines_eq_ok_iff.mp h
      exact ⟨titles, rows, start, .cons hheader hrows, eq_ok_of_locate_eq_ok hstart, hall⟩
    · rintro ⟨titles, rows, start, hlines, hstart, hall⟩
      cases hlines with
      | cons hheader hrows =>
        rw [hheader]
        change (locate path 1 (ofTitles titles) >>= _) = _
        rw [hstart]
        exact insertLines_eq_ok_iff.mpr ⟨rows, hrows, hall⟩

theorem valid_ofFile (h : ofFile path contents = .ok t) : t.Valid := by
  obtain ⟨titles, rows, start, -, hstart, hall⟩ := ofFile_eq_ok_iff.mp h
  exact (valid_ofTitles hstart).insertAll hall

end Table

namespace Database

def All (P : String → Table → Prop) (db : Database) : Prop :=
  ∀ name t, db.get? name = some t → P name t

variable {db : Database}

theorem all_empty (P : String → Table → Prop) : Database.empty.All P := by
  intro name t h
  cases h

theorem All.put {P : String → Table → Prop} (h : db.All P) {name : String} {t : Table}
    (ht : P name t) : (db.put name t).All P := by
  intro other u hu
  rw [get?_put] at hu
  split at hu
  · rename_i he
    cases hu
    exact he ▸ ht
  · exact h other u hu

abbrev Valid (db : Database) : Prop := db.All fun _ t => t.Valid

theorem Over.valid {q : Query} {source : Table} (hdb : db.Valid) (h : db.Over q source) :
    source.Valid := by
  cases h with
  | one _ found => exact hdb _ _ found
  | two _ _ _ joined => exact Table.valid_join joined

theorem valid_select {q : Query} {t : Table} (h : db.select q = .ok t) : t.Valid := by
  obtain ⟨_, -, hs⟩ := exists_over_of_select h
  exact Table.valid_select hs

end Database

namespace Statement

/-- What the insertion of each row keeps, the insertion of all rows keeps, whether it gets to the
last of them or not. -/
theorem addRows_induction {P : Table → Prop} {t : Table} {rows : List Row}
    (hstep : ∀ row ∈ rows, ∀ t t' fresh, P t → t.insert row = .ok (fresh, t') → P t')
    (h : P t) : P (addRows t rows).2 := by
  induction rows generalizing t with
  | nil => exact h
  | cons row rest ih =>
    obtain ⟨hrow, hrest⟩ := List.forall_mem_cons.mp hstep
    rw [addRows]
    split
    · rename_i hi
      exact ih hrest (hrow _ _ _ h hi)
    · exact h

theorem insertRows_induction {P : Table → Prop} {t : Table} {rows : List Row}
    (hstep : ∀ row ∈ rows, ∀ t t' fresh, P t → t.insert row = .ok (fresh, t') → P t')
    (h : P t) : P (insertRows t rows).2 := by
  rw [insertRows]
  split
  · exact h
  · exact addRows_induction hstep h

theorem valid_insertRows {t : Table} (h : t.Valid) (rows : List Row) :
    (insertRows t rows).2.Valid :=
  insertRows_induction (fun _ _ _ _ _ ht hi => ht.insert hi) h

theorem valid_definedTable {db : Database} {definition : Definition} {t : Table}
    (h : definedTable db definition = .ok t) : t.Valid := by
  cases definition with
  | columns titles => exact Table.valid_ofTitles h
  | query q => exact Database.valid_select h

theorem valid_loadedTable {path : String} {file : Except FileError ByteArray} {t : Table}
    (h : loadedTable path file = .ok t) : t.Valid := by
  unfold loadedTable at h
  split at h
  · exact Table.valid_ofFile h
  · cases h
  · cases h

/-- What holds of all tables of a database goes on to hold, if it holds of those that the statement
makes: the one that it defines, the one that it inserts into and the one that it loads. -/
theorem all_effect {P : String → Table → Prop} {db : Database} (h : db.All P) {dir : String}
    {file : Except FileError ByteArray} {statement : Statement}
    (hdefined : ∀ name definition t, statement = .create name definition →
      definedTable db definition = .ok t → P name t)
    (hinserted : ∀ name rows t, statement = .insert name rows → db.get? name = some t →
      P name (insertRows t rows).2)
    (hloaded : ∀ name t, statement = .load name →
      loadedTable (tablePath dir name) file = .ok t → P name t) :
    (statement.effect dir db file).2.All P ∧
      ∀ effect, (statement.effect dir db file).1 = .ok effect → effect.database.All P := by
  cases statement with
  | create name definition =>
    refine ⟨h, fun effect he => ?_⟩
    obtain ⟨t, ht, rfl⟩ := exists_of_map_eq_ok he
    exact h.put (hdefined name definition t rfl ht)
  | insert name rows =>
    rw [Statement.effect]
    split
    · exact ⟨h, fun effect he => nomatch he⟩
    · rename_i t ht
      have hput := h.put (hinserted name rows t rfl (Database.get?_of_table ht))
      refine ⟨hput, fun effect he => ?_⟩
      obtain ⟨_, -, rfl⟩ := exists_of_map_eq_ok he
      exact hput
  | load name =>
    refine ⟨h, fun effect he => ?_⟩
    obtain ⟨t, ht, rfl⟩ := exists_of_map_eq_ok he
    exact h.put (hloaded name t rfl ht)
  | store name =>
    refine ⟨h, fun effect he => ?_⟩
    obtain ⟨t, -, he⟩ := exists_of_bind_eq_ok he
    split at he <;> cases he
    exact h
  | print name =>
    refine ⟨h, fun effect he => ?_⟩
    obtain ⟨t, -, rfl⟩ := exists_of_map_eq_ok he
    exact h
  | select q =>
    refine ⟨h, fun effect he => ?_⟩
    obtain ⟨t, -, rfl⟩ := exists_of_map_eq_ok he
    exact h
  | exit =>
    refine ⟨h, fun effect he => ?_⟩
    cases he
    exact h

theorem valid_effect {db : Database} (h : db.Valid) (dir : String)
    (file : Except FileError ByteArray) (statement : Statement) :
    (statement.effect dir db file).2.Valid ∧
      ∀ effect, (statement.effect dir db file).1 = .ok effect → effect.database.Valid := by
  apply all_effect h
  · exact fun _ _ _ _ ht => valid_definedTable ht
  · exact fun name rows t _ ht => valid_insertRows (h name t ht) rows
  · exact fun _ _ _ ht => valid_loadedTable ht

end Statement

end TableShell
