import Mathlib.Data.List.Forall2
import TableShell.Proofs.JoinRows
import TableShell.Proofs.SelectRows
import TableShell.Proofs.TableResults

namespace TableShell

inductive Matching {α β : Type} (R : α → β → Prop) : Except Fault α → Except Fault β → Prop
  | error (fault : Fault) : Matching R (.error fault) (.error fault)
  | ok {a : α} {b : β} (h : R a b) : Matching R (.ok a) (.ok b)

namespace Matching

variable {α β γ δ : Type} {R : α → β → Prop} {S : γ → δ → Prop} {x : Except Fault α}
  {y : Except Fault β}

theorem bind (h : Matching R x y) {f : α → Except Fault γ} {g : β → Except Fault δ}
    (hf : ∀ a b, R a b → Matching S (f a) (g b)) : Matching S (x >>= f) (y >>= g) := by
  cases h with
  | error fault => exact .error fault
  | ok h => exact hf _ _ h

theorem map (h : Matching R x y) {f : α → γ} {g : β → δ} (hf : ∀ a b, R a b → S (f a) (g b)) :
    Matching S (x.map f) (y.map g) := by
  cases h with
  | error fault => exact .error fault
  | ok h => exact .ok (hf _ _ h)

theorem eq {x y : Except Fault α} (h : Matching Eq x y) : x = y := by
  cases h with
  | error fault => rfl
  | ok h => exact congrArg _ h

theorem imp (h : Matching R x y) {R' : α → β → Prop} (hr : ∀ a b, R a b → R' a b) :
    Matching R' x y := by
  cases h with
  | error fault => exact .error fault
  | ok h => exact .ok (hr _ _ h)

theorem refl (x : Except Fault α) : Matching (fun a b => a = b ∧ x = .ok a) x x := by
  cases x with
  | error fault => exact .error fault
  | ok a => exact .ok ⟨rfl, rfl⟩

end Matching

namespace Table

/-- Valid tables with the same titles and the same rows, in whatever order. -/
structure Alike (t t' : Table) : Prop where
  valid_left : t.Valid
  valid_right : t'.Valid
  titles_eq : t.titles = t'.titles
  mem_iff : ∀ row, row ∈ t.rows ↔ row ∈ t'.rows

variable {t t' left left' right right' : Table} {rows rows' : List Row}

theorem Valid.alike (h : t.Valid) : t.Alike t := ⟨h, h, rfl, fun _ => Iff.rfl⟩

namespace Alike

theorem width_eq (h : t.Alike t') : t.width = t'.width := congrArg List.length h.titles_eq

theorem sortedRows_eq (h : t.Alike t') : t.sortedRows = t'.sortedRows := by
  have hrows : t.rows.Perm t'.rows :=
    (List.perm_ext_iff_of_nodup h.valid_left.rows_nodup h.valid_right.rows_nodup).mpr h.mem_iff
  have hsorted : t.sortedRows.Perm t'.sortedRows :=
    (sortedRows_perm h.valid_left.index_perm).trans
      (hrows.trans (sortedRows_perm h.valid_right.index_perm).symm)
  refine hsorted.eq_of_pairwise ?_ h.valid_left.ascending h.valid_right.ascending
  intro a b _ _ hab hba
  rw [← Std.OrientedCmp.gt_iff_lt, hab] at hba
  cases hba

theorem listing_eq (h : t.Alike t') : t.listing = t'.listing := by
  rw [listing, listing, h.sortedRows_eq]

theorem insertAll (h : t.Alike t') (hw : ∀ row ∈ rows, row.length = t.width)
    (hrows : ∀ row, row ∈ rows ↔ row ∈ rows') :
    Matching Alike (t.insertAll rows) (t'.insertAll rows') := by
  have hw' : ∀ row ∈ rows', row.length = t'.width := by
    intro row hm
    rw [← h.width_eq]
    exact hw row ((hrows row).mpr hm)
  obtain ⟨u, hu, huv, hut, hur⟩ := h.valid_left.insertAll_eq_ok hw
  obtain ⟨u', hu', huv', hut', hur'⟩ := h.valid_right.insertAll_eq_ok hw'
  rw [hu, hu']
  refine .ok ⟨huv, huv', ?_, ?_⟩
  · rw [hut, hut', h.titles_eq]
  · intro row
    simp only [hur, hur', List.mem_eraseDups, List.mem_append, h.mem_iff, hrows]

theorem join (hl : left.Alike left') (hr : right.Alike right') :
    Matching Alike (left.join right) (left'.join right') := by
  obtain ⟨t, ht, htv, htt, htr⟩ := hl.valid_left.join_eq_ok hr.valid_left
  obtain ⟨t', ht', htv', htt', htr'⟩ := hl.valid_right.join_eq_ok hr.valid_right
  rw [ht, ht']
  refine .ok ⟨htv, htv', ?_, ?_⟩
  · rw [htt, htt', ownTitles_congr hl.titles_eq hr.titles_eq, hl.titles_eq]
  · intro row
    simp only [htr, htr', mem_joinedRows, hl.mem_iff, hr.mem_iff,
      agree_congr hl.titles_eq hr.titles_eq, combine_congr hl.titles_eq hr.titles_eq]

end Alike

def Holds (t : Table) (cells : String → Option String) : Prop :=
  ∃ row ∈ t.rows, Row.cell? t.titles row = cells

/-- Valid tables with the same titles and the same rows, whatever the order of either. -/
structure Rearranged (t t' : Table) : Prop where
  valid_left : t.Valid
  valid_right : t'.Valid
  mem_titles_iff : ∀ title, title ∈ t.titles ↔ title ∈ t'.titles
  holds_iff : ∀ cells, t.Holds cells ↔ t'.Holds cells

theorem Alike.rearranged (h : t.Alike t') : t.Rearranged t' where
  valid_left := h.valid_left
  valid_right := h.valid_right
  mem_titles_iff := by simp [h.titles_eq]
  holds_iff := by simp [Holds, h.titles_eq, h.mem_iff]

theorem mem_selectedRows_of_holds {q : Query} (h : ∀ cells, t.Holds cells → t'.Holds cells)
    {row : Row} (hr : row ∈ t.selectedRows q) : row ∈ t'.selectedRows q := by
  obtain ⟨source, hs, hq, rfl⟩ := mem_selectedRows.mp hr
  obtain ⟨source', hs', he⟩ := h _ ⟨source, hs, rfl⟩
  have hcell := congrFun he
  refine mem_selectedRows.mpr ⟨source', hs', ?_, ?_⟩
  · rw [Query.holds_congr fun _ _ column _ => hcell column]
    exact hq
  · exact Row.select_congr fun column _ => hcell column

theorem Rearranged.select (h : t.Rearranged t') (q : Query) :
    Matching Alike (t.select q) (t'.select q) := by
  have hresolve : t.resolve q = t'.resolve q := by
    simp only [resolve, h.mem_titles_iff]
  rw [Table.select, Table.select, ← hresolve]
  refine (Matching.refl _).bind ?_
  rintro _ _ ⟨-, hr⟩
  refine (Matching.refl _).bind ?_
  rintro start _ ⟨rfl, hc⟩
  apply (valid_ofTitles hc).alike.insertAll
  · rw [width, (titles_of_ofTitles hc).1]
    exact length_of_mem_selectedRows h.valid_left hr
  · intro row
    constructor
    · exact mem_selectedRows_of_holds fun cells => (h.holds_iff cells).mp
    · exact mem_selectedRows_of_holds fun cells => (h.holds_iff cells).mpr

end Table

namespace Database

def Alike (db db' : Database) : Prop :=
  ∀ name, Option.Rel Table.Alike (db.get? name) (db'.get? name)

namespace Alike

variable {db db' : Database}

theorem table (h : db.Alike db') (name : String) :
    Matching Table.Alike (db.table name) (db'.table name) := by
  have hname := h name
  rw [Database.table, Database.table]
  generalize db.get? name = found, db'.get? name = found' at hname
  cases hname with
  | none => exact .error _
  | some ht => exact .ok ht

theorem put (h : db.Alike db') {name : String} {t t' : Table} (ht : t.Alike t') :
    (db.put name t).Alike (db'.put name t') := by
  intro other
  rw [get?_put, get?_put]
  split
  · exact .some ht
  · exact h other

theorem tables (h : db.Alike db') (names : List String) :
    Matching (List.Forall₂ Table.Alike) (names.mapM db.table) (names.mapM db'.table) := by
  induction names with
  | nil => exact .ok .nil
  | cons name rest ih =>
    rw [List.mapM_cons, List.mapM_cons]
    apply (h.table name).bind
    intro t t' ht
    apply ih.bind
    intro later later' hlater
    exact .ok (.cons ht hlater)

theorem select (h : db.Alike db') (q : Query) :
    Matching Table.Alike (db.select q) (db'.select q) := by
  rw [Database.select, Database.select]
  apply (h.tables q.tables).bind
  intro sources sources' hs
  cases hs with
  | nil => exact .error _
  | cons ht hs =>
    cases hs with
    | nil => exact ht.rearranged.select q
    | cons hr hs =>
      cases hs with
      | nil =>
        apply (ht.join hr).bind
        intro t t' hj
        exact hj.rearranged.select q
      | cons _ hmore =>
        simp only [hmore.length_eq, List.length_cons]
        exact .error _

end Alike

end Database

structure Effect.Alike (effect effect' : Effect) : Prop where
  text_eq : effect.text = effect'.text
  more_eq : effect.more = effect'.more
  database : effect.database.Alike effect'.database

namespace Statement

variable {t t' : Table} {db db' : Database}

theorem addRows_of_insertAll {rows : List Row} (h : t.insertAll rows = .ok t') :
    addRows t rows = (.ok (), t') := by
  induction rows generalizing t with
  | nil =>
    cases h
    rfl
  | cons row rest ih =>
    rw [Table.insertAll, List.foldlM_cons] at h
    rw [addRows]
    cases hi : t.insert row with
    | error fault =>
      rw [hi] at h
      cases h
    | ok inserted =>
      rw [hi] at h
      exact ih h

theorem alike_insertRows (h : t.Alike t') (rows : List Row) :
    (insertRows t rows).1 = (insertRows t' rows).1 ∧
      (insertRows t rows).2.Alike (insertRows t' rows).2 := by
  rw [insertRows, insertRows, h.width_eq]
  split <;> rename_i hfind
  · exact ⟨rfl, h⟩
  · have hw : ∀ row ∈ rows, row.length = t.width := by
      rw [h.width_eq]
      simpa using hfind
    have hi := h.insertAll hw fun _ => Iff.rfl
    obtain ⟨u, hu, -⟩ := h.valid_left.insertAll_eq_ok hw
    rw [hu] at hi
    cases hu' : t'.insertAll rows with
    | error fault =>
      rw [hu'] at hi
      cases hi
    | ok u' =>
      rw [hu'] at hi
      cases hi with
      | ok hlike =>
        rw [addRows_of_insertAll hu, addRows_of_insertAll hu']
        exact ⟨rfl, hlike⟩

theorem alike_definedTable (h : db.Alike db') (definition : Definition) :
    Matching Table.Alike (definedTable db definition) (definedTable db' definition) := by
  cases definition with
  | query q => exact h.select q
  | columns titles =>
    apply (Matching.refl _).imp
    rintro t _ ⟨rfl, ht⟩
    exact (Table.valid_ofTitles ht).alike

def Fileless (statement : Statement) : Prop :=
  ∀ name, statement ≠ .load name ∧ statement ≠ .store name

theorem request_of_fileless {statement : Statement} (h : statement.Fileless) (dir : String)
    (db : Database) : statement.request dir db = none := by
  cases statement with
  | load name => exact absurd rfl (h name).1
  | store name => exact absurd rfl (h name).2
  | _ => rfl

theorem alike_effect (h : db.Alike db') {statement : Statement} (hs : statement.Fileless)
    (dir : String) (file : Except FileError ByteArray) :
    Matching Effect.Alike (statement.effect dir db file).1 (statement.effect dir db' file).1 ∧
      (statement.effect dir db file).2.Alike (statement.effect dir db' file).2 := by
  cases statement with
  | load name => exact absurd rfl (hs name).1
  | store name => exact absurd rfl (hs name).2
  | create name definition =>
    refine ⟨(alike_definedTable h definition).map ?_, h⟩
    exact fun _ _ ht => ⟨rfl, rfl, h.put ht⟩
  | insert name rows =>
    have htable := h.table name
    rw [effect, effect]
    generalize db.table name = found, db'.table name = found' at htable
    cases htable with
    | error fault => exact ⟨.error fault, h⟩
    | ok ht =>
      obtain ⟨hresult, hlike⟩ := alike_insertRows ht rows
      refine ⟨?_, h.put hlike⟩
      dsimp only
      rw [← hresult]
      exact (Matching.refl _).map fun _ _ _ => ⟨rfl, rfl, h.put hlike⟩
  | print name =>
    refine ⟨(h.table name).map ?_, h⟩
    intro t t' ht
    exact ⟨congrArg (_ ++ ·) ht.listing_eq, rfl, h⟩
  | select q =>
    refine ⟨(h.select q).map ?_, h⟩
    intro t t' ht
    exact ⟨congrArg (_ ++ ·) ht.listing_eq, rfl, h⟩
  | exit => exact ⟨.ok ⟨rfl, rfl, h⟩, h⟩

end Statement

end TableShell
