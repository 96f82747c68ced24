import TableShell.Proofs.SelectRows
import TableShell.Proofs.Spelling

namespace TableShell

namespace Table

variable {t t' left right : Table}

theorem Storable.insert (h : t.Storable) {row : Row} (hrow : ∀ cell ∈ row, Plain cell)
    {added : Bool} (hi : t.insert row = .ok (added, t')) : t'.Storable := by
  have hvalid := h.valid.insert hi
  obtain ⟨-, ⟨-, -, rfl⟩ | ⟨rank, -, -, rfl⟩⟩ := insert_eq_ok hi
  · exact h
  · refine ⟨hvalid, h.titles_plain, ?_⟩
    intro other ho
    obtain ho | ho := List.mem_append.mp ho
    · exact h.cells_plain other ho
    · rw [List.mem_singleton.mp ho]
      exact hrow

theorem Storable.insertAll (h : t.Storable) {rows : List Row}
    (hrows : ∀ row ∈ rows, ∀ cell ∈ row, Plain cell) (hi : t.insertAll rows = .ok t') :
    t'.Storable :=
  insertAll_induction (fun row hm _ _ _ ht hrow => ht.insert (hrows row hm) hrow) h hi

theorem storable_ofTitles {titles : List String} (hp : ∀ title ∈ titles, Plain title)
    (h : ofTitles titles = .ok t) : t.Storable := by
  have hvalid := valid_ofTitles h
  rw [ofTitles] at h
  split at h
  · cases h
  · split at h <;> cases h
    exact ⟨hvalid, hp, by simp⟩

theorem mem_of_mem_select {titles columns : List String} {row : Row} {cell : String}
    (h : cell ∈ Row.select titles row columns) : cell ∈ row := by
  obtain ⟨title, -, hc⟩ := List.mem_filterMap.mp h
  exact (Row.mem_of_cell? hc).2

theorem mem_of_mem_combine {l r : Row} {cell : String} (h : cell ∈ combine left right l r) :
    cell ∈ l ∨ cell ∈ r := by
  obtain h | h := List.mem_append.mp h
  · exact .inl h
  · obtain ⟨column, hc, rfl⟩ := List.mem_map.mp h
    exact .inr (List.of_mem_zip (List.mem_filter.mp hc).1).2

theorem Storable.join (hl : left.Storable) (hr : right.Storable) (h : left.join right = .ok t) :
    t.Storable := by
  obtain ⟨joined, hj, hi⟩ := exists_of_bind_eq_ok h
  refine (storable_ofTitles ?_ hj).insertAll ?_ hi
  · intro title ht
    obtain ht | ht := List.mem_append.mp ht
    · exact hl.titles_plain title ht
    · exact hr.titles_plain title (List.mem_filter.mp ht).1
  · intro row hrow cell hc
    obtain ⟨l, hlrow, hrow⟩ := List.mem_flatMap.mp hrow
    obtain ⟨r, hrrow, rfl⟩ := List.mem_map.mp hrow
    obtain hc | hc := mem_of_mem_combine hc
    · exact hl.cells_plain l hlrow cell hc
    · exact hr.cells_plain r (List.mem_filter.mp hrrow).1 cell hc

theorem Storable.select (h : t.Storable) {q : Query} (hs : t.select q = .ok t') : t'.Storable := by
  obtain ⟨_, hresolve, hs⟩ := exists_of_bind_eq_ok hs
  obtain ⟨result, hr, hi⟩ := exists_of_bind_eq_ok hs
  refine (storable_ofTitles ?_ hr).insertAll ?_ hi
  · exact fun column hc => h.titles_plain column (mem_titles_of_resolve hresolve column hc)
  · intro row hrow cell hc
    obtain ⟨source, hsource, rfl⟩ := List.mem_map.mp hrow
    exact h.cells_plain source (List.mem_filter.mp hsource).1 cell (mem_of_mem_select hc)

end Table

namespace Database

variable {db : Database}

abbrev Storable (db : Database) : Prop := db.All fun name t => IsWord name ∧ t.Storable

theorem storable_select (h : db.Storable) {q : Query} {t : Table} (hs : db.select q = .ok t) :
    t.Storable := by
  obtain ⟨source, hover, hs⟩ := exists_over_of_select hs
  have hsource : source.Storable := by
    cases hover with
    | one _ found => exact (h _ _ found).2
    | two _ found_left found_right joined =>
      exact (h _ _ found_left).2.join (h _ _ found_right).2 joined
  exact hsource.select hs

end Database

namespace Statement

variable {db : Database} {t : Table}

theorem storable_insertRows (h : t.Storable) {rows : List Row}
    (hrows : ∀ row ∈ rows, ∀ cell ∈ row, Plain cell) : (insertRows t rows).2.Storable :=
  insertRows_induction (fun row hm _ _ _ ht hi => ht.insert (hrows row hm) hi) h

def Written (file : Except FileError ByteArray) : Prop :=
  ∀ contents, file = .ok contents → ∃ t : Table, t.Storable ∧ contents = t.fileText.toUTF8

theorem storable_loadedTable {path : String} {file : Except FileError ByteArray} (h : Written file)
    (hl : loadedTable path file = .ok t) : t.Storable := by
  unfold loadedTable at hl
  split at hl
  · rename_i contents
    obtain ⟨stored, hs, rfl⟩ := h contents rfl
    rw [Table.ofFile_fileText hs] at hl
    cases hl
    exact hs
  · cases hl
  · cases hl

theorem storable_effect (h : db.Storable) {statement : Statement} (hs : statement.Spelled)
    (dir : String) {file : Except FileError ByteArray}
    (hfile : ∀ name, statement = .load name → Written file) :
    (statement.effect dir db file).2.Storable ∧
      ∀ effect, (statement.effect dir db file).1 = .ok effect → effect.database.Storable := by
  apply all_effect h
  · rintro name definition t rfl ht
    cases definition with
    | columns titles =>
      exact ⟨hs.1, Table.storable_ofTitles (fun title hm => (hs.2 title hm).plain) ht⟩
    | query q => exact ⟨hs, Database.storable_select h ht⟩
  · rintro name rows t rfl ht
    obtain ⟨hname, hstorable⟩ := h name t ht
    exact ⟨hname, storable_insertRows hstorable hs⟩
  · rintro name t rfl ht
    exact ⟨hs, storable_loadedTable (hfile name rfl) ht⟩

end Statement

end TableShell
