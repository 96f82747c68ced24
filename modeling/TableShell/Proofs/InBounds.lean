import TableShell.Proofs.CheckedStatements
import TableShell.Proofs.Cursor
import TableShell.Proofs.LinesRead
import TableShell.Proofs.TokenBuffer
import TableShell.Script

namespace TableShell

namespace Cursor

/-- The cursor has been moved from the start of some lines by looking for events. Now and then the
prompts asked for have been taken, and the lines that have not been read replaced. -/
inductive Reached : Cursor → Prop
  | start (lines : List String) : Reached (ofLines lines)
  | next {c c' : Cursor} {event : Event} (h : Reached c) (hn : c.next? = some (event, c')) :
    Reached c'
  | shown {c : Cursor} (h : Reached c) : Reached { c with prompts := [] }
  | fed {c : Cursor} (h : Reached c) (lines : List String) : Reached { c with unread := lines }

theorem Reached.inLine {c : Cursor} (h : c.Reached) : c.InLine := by
  induction h with
  | start lines => exact inLine_ofLines lines
  | next h hn ih =>
    obtain ⟨event, c', hc, hin, -⟩ := next?_eq ih
    rw [hn] at hc
    cases hc
    exact hin
  | shown h ih => exact ⟨ih.le_length, ih.at_end⟩
  | fed h lines ih => exact ⟨ih.le_length, ih.at_end⟩

end Cursor

def Source.Scanned (s : Source) : Prop := ∃ c : Cursor, c.Reached ∧ c.source = s

theorem Source.steady_scanned : Source.Steady Source.Scanned := by
  rintro s ⟨c, hc, rfl⟩
  obtain ⟨event, c', hn, -, htake⟩ := Cursor.next?_eq hc.inLine
  exact ⟨c', hc.next hn, by rw [htake]⟩

namespace Tokens

inductive Reached : Tokens → Prop
  | start (lines : List String) : Reached (ofLines lines)
  | peek {t : Tokens} (h : Reached t) : Reached t.peek.2
  | advance {t : Tokens} (h : Reached t) : Reached t.advance
  | flush {t : Tokens} (h : Reached t) : Reached t.flush
  | rewind {t : Tokens} (h : Reached t) : Reached t.rewind
  | shown {t : Tokens} (h : Reached t) : Reached t.collectPrompts.2
  | fed {t : Tokens} (h : Reached t) (lines : List String) :
    Reached { t with source := { t.source with unread := lines } }

theorem steady_reached : Steady Reached := ⟨.peek, .advance, .flush⟩

variable {t : Tokens}

theorem Reached.scanned (h : t.Reached) : t.source.Scanned := by
  have hsteady := Source.steady_scanned.tokens
  induction h with
  | start lines => exact ⟨.ofLines lines, .start lines, Cursor.source_ofLines lines⟩
  | peek _ ih => exact hsteady.peek ih
  | advance _ ih => exact hsteady.advance ih
  | flush _ ih => exact hsteady.flush ih
  | rewind _ ih => exact ih
  | shown _ ih =>
    obtain ⟨c, hc, he⟩ := ih
    exact ⟨_, hc.shown, congrArg (fun s : Source => { s with prompts := [] }) he⟩
  | fed _ lines ih =>
    obtain ⟨c, hc, he⟩ := ih
    exact ⟨_, hc.fed lines, congrArg (fun s : Source => { s with unread := lines }) he⟩

theorem Reached.asks (h : t.Reached) (ops : List Op) : (t.asks ops).2.Reached := by
  induction ops generalizing t with
  | nil => exact h
  | cons op ops ih =>
    apply ih
    by_cases hf : op = .flush
    · subst hf
      exact h.flush
    by_cases hr : op = .rewind
    · subst hr
      exact h.rewind
    obtain ⟨-, hstate, -⟩ | ⟨-, -, token, hn⟩ := t.ask_cases op hf hr
    · rw [hstate]
      exact h.peek
    · obtain ⟨peeked, hp, he⟩ := peek_of_next_ok hn
      have hpeek := h.peek
      rw [hp] at hpeek
      rw [he]
      exact hpeek.advance

end Tokens

namespace Table

inductive Built : Table → Prop
  | new {titles : List String} {t : Table} (h : ofTitles titles = .ok t) : Built t
  | insert {t t' : Table} {row : Row} {added : Bool} (h : Built t)
    (hi : t.insert row = .ok (added, t')) : Built t'

theorem Built.valid {t : Table} (h : t.Built) : t.Valid := by
  induction h with
  | new h => exact valid_ofTitles h
  | insert _ hi ih => exact ih.insert hi

/-- Every valid table is what its rows make of its titles. -/
theorem built_iff_valid {t : Table} : t.Built ↔ t.Valid := by
  refine ⟨Built.valid, fun h => ?_⟩
  have hstart := ofTitles_of_nodup h.titles_ne_nil h.titles_nodup
  -- inserted again, all rows are kept, and the index can only be the one that there was
  obtain ⟨t', hi, hv, htitles, hrows⟩ := (valid_ofTitles hstart).insertAll_eq_ok h.width_eq
  rw [List.nil_append, eraseDups_of_nodup h.rows_nodup] at hrows
  rw [← hv.eq_of_rows h htitles hrows]
  exact insertAll_induction (fun _ _ _ _ _ ht hrow => ht.insert hrow) (.new hstart) hi

/-- No column, row number or place in the index that is looked for is out of range. -/
structure InBounds (t : Table) : Prop where
  size : t.size? = some t.size
  rows : t.rows? = some t.rows
  sortedRows : t.sortedRows? = some t.sortedRows
  row (k : Nat) : t.row? k = some (t.row k)
  insert (row : Row) : t.insert? row = some (t.insert row)
  /-- A row that is added is one more cell in each column. -/
  columns {row : Row} {t' : Table} (hi : t.insert row = .ok (true, t')) :
    t'.columns = List.zipWith (fun column cell => column ++ [cell]) t.columns row
  join {right : Table} (hr : right.Built) : t.join? right = some (t.join right)
  joined {right t' : Table} (hj : t.join right = .ok t') : t'.Built
  select (q : Query) : t.select? q = some (t.select q)
  selected {q : Query} {t' : Table} (hs : t.select q = .ok t') : t'.Built

theorem Built.inBounds {t : Table} (h : t.Built) : t.InBounds where
  size := h.valid.size?_eq
  rows := h.valid.rows?_eq
  sortedRows := h.valid.sortedRows?_eq
  row := h.valid.row?_eq
  insert := h.valid.insert?_eq
  columns := h.valid.columns_insert
  join hr := h.valid.join?_eq hr.valid
  joined hj := built_iff_valid.mpr (valid_join hj)
  select := h.valid.select?_eq
  selected hs := built_iff_valid.mpr (valid_select hs)

end Table

namespace Session

/-- The session has come to this by its steps, in any order: it reads, carries out any statement,
skips and reports. Lines that have not been read may be replaced. -/
inductive Reached : Session → Prop
  | start {r : Reader} (h : r.tokens.Reached) (dir : String) (folder : Folder) (output : Output)
    (prompting : Bool) : Reached ⟨r, .empty, dir, folder, output, prompting⟩
  | read {s : Session} (h : Reached s) : Reached s.read.2
  | execute {s : Session} (h : Reached s) (statement : Statement) :
    Reached (s.execute statement).2
  | skip {s : Session} (h : Reached s) : Reached s.skip
  | report {s : Session} (h : Reached s) (text : String) :
    Reached { s with output := (s.output.write .answer text).2 }
  | fed {s : Session} (h : Reached s) (lines : List String) : Reached (s.feed lines)

theorem kept_reached : Kept Reached (fun _ => True) where
  read h := h.read
  readable _ _ := trivial
  execute h _ := h.execute _
  skip h := h.skip
  report text h := h.report text

theorem Reached.tokens {s : Session} (h : s.Reached) : s.reader.tokens.Reached := by
  have k := kept_of_steady Tokens.steady_reached fun _ ht => ht.shown
  induction h with
  | start h => exact h
  | read _ ih => exact k.read ih
  | execute _ statement ih => exact k.execute ih trivial
  | skip _ ih => exact k.skip ih
  | report _ text ih => exact ih
  | fed _ lines ih => exact ih.fed lines

theorem Reached.valid {s : Session} (h : s.Reached) : s.database.Valid := by
  induction h with
  | start => exact Database.all_empty _
  | execute _ statement ih => exact kept_valid.execute ih trivial
  | read _ ih => exact ih
  | skip _ ih => exact ih
  | report _ _ ih => exact ih
  | fed _ _ ih => exact ih

theorem Kept.runTo {P : Session → Prop} {Q : Statement → Prop} (k : Kept P Q) {s : Session}
    (location : Location) (h : P s) : P (s.runTo location).2 := by
  fun_induction Session.runTo location s with
  | case1 s read result after hr =>
    have hround := k.round h
    rwa [Session.round, Session.statement, hr] at hround
  | case2 s read after hr hw =>
    have hround := k.round h
    rwa [Session.round, Session.statement, hr] at hround
  | case3 s read after hr hw ih =>
    have hround := k.round h
    rw [Session.round, Session.statement, hr] at hround
    exact ih hround

theorem Reached.script {s : Session} (h : s.Reached) (script : Script) :
    (script.run s).2.Reached := by
  fun_induction Script.run script s with
  | case1 script s contents lines result after hr =>
    have hrun := kept_reached.runTo script.location (h.fed lines)
    rwa [hr] at hrun
  | case2 script s contents lines after hr ih =>
    have hrun := kept_reached.runTo script.location (h.fed lines)
    rw [hr] at hrun
    exact ih hrun

/-- The cursor stays on its line. A token that is looked at stands at the front. Whatever is asked of
tokens, readers and sessions, what they scan is scanned by such a cursor, and every table that there
is has been made by inserting rows. All columns, cells and rows of such tables are found. -/
theorem in_bounds :
    (∀ c : Cursor, c.Reached → c.pos ≤ c.chars.length ∧
      ∃ event c', c.next? = some (event, c') ∧ c.source.fill.take = (event, c'.source)) ∧
    (∀ (t t' : Tokens) (token : Token), t.peek = (.ok token, t') →
      t'.lookahead[0]? = some token) ∧
    (∀ t : Tokens, t.Reached → t.source.Scanned ∧ (∀ ops, (t.asks ops).2.Reached) ∧
      ∀ complete, (Reader.statement ⟨t, complete⟩).2.tokens.Reached ∧
        (Reader.skip ⟨t, complete⟩).tokens.Reached) ∧
    (∀ s : Session, s.Reached → s.reader.tokens.Reached ∧ s.database.All (fun _ t => t.Built) ∧
      (∀ statement, s.execute? statement = some (s.execute statement)) ∧
      (∀ cs, (s.calls cs).Reached) ∧ ∀ script : Script, (script.run s).2.Reached) ∧
    (∀ titles, Table.ofTitles? titles = some (Table.ofTitles titles)) ∧
    (∀ path contents, Table.ofFile? path contents = some (Table.ofFile path contents)) ∧
    (∀ t : Table, t.Built → t.InBounds) ∧
    ∀ db : Database, db.All (fun _ t => t.Built) → ∀ q, db.select? q = some (db.select q) := by
  refine ⟨?_, ?_, ?_, ?_, Table.ofTitles?_eq, Table.ofFile?_eq, ?_, ?_⟩
  · intro c hc
    obtain ⟨event, c', hn, -, htake⟩ := Cursor.next?_eq hc.inLine
    exact ⟨hc.inLine.le_length, event, c', hn, htake⟩
  · intro t t' token hp
    rw [← List.head?_eq_getElem?]
    exact Tokens.head?_peek hp
  · intro t ht
    refine ⟨ht.scanned, ht.asks, fun complete => ?_⟩
    exact ⟨Tokens.steady_reached.statement ht, Tokens.steady_reached.skip ht⟩
  · intro s hs
    refine ⟨hs.tokens, ?_, execute?_eq hs.valid, fun cs => ?_, hs.script⟩
    · intro name t ht
      exact Table.built_iff_valid.mpr (hs.valid name t ht)
    · exact kept_reached.calls (fun c _ => by cases c <;> trivial) hs
  · intro t ht
    exact ht.inBounds
  · intro db hdb
    exact Database.select?_eq fun name t ht => (hdb name t ht).valid

/-- A symbol behind a comment over two lines, and a column that two tables share. -/
theorem in_bounds_of_shared_column :
    let c := Cursor.ofLines ["/* a", "b */ <= 'x'"]
    let left : Table := ⟨["a", "b"], [["1", "x"], ["0", "y"]], [1, 0]⟩
    let right : Table := ⟨["b", "c"], [["y", "p"]], [0]⟩
    (∃ c', c.next? = some (.ok ⟨.comparison .atMost, 2⟩, c')) ∧ left.Built ∧ right.Built ∧
      left.join? right = some (.ok ⟨["a", "b", "c"], [["0", "y", "p"]], [0]⟩) := by
  intro c left right
  obtain ⟨hcursor, -, -, -, -, -, htable, -⟩ := in_bounds
  have hfirst : Table.insert ⟨["a", "b"], [], []⟩ ["1", "x"] =
    .ok (true, ⟨["a", "b"], [["1", "x"]], [0]⟩) := rfl
  have hsecond : Table.insert ⟨["a", "b"], [["1", "x"]], [0]⟩ ["0", "y"] = .ok (true, left) := rfl
  have hother : Table.insert ⟨["b", "c"], [], []⟩ ["y", "p"] = .ok (true, right) := rfl
  have hnew : ∀ titles, titles ≠ [] → titles.Nodup → Table.Built ⟨titles, [], []⟩ :=
    fun titles hne h => .new (Table.ofTitles_of_nodup hne h)
  have hl : left.Built := .insert (.insert (hnew _ (by simp) (by simp)) hfirst) hsecond
  have hr : right.Built := .insert (hnew _ (by simp) (by simp)) hother
  refine ⟨?_, hl, hr, (htable left hl).join hr⟩
  obtain ⟨-, event, c', hn, htake⟩ := hcursor c (.start _)
  have hevent : c.source.fill.take.1 = .ok ⟨.comparison .atMost, 2⟩ := by decide +kernel
  rw [htake] at hevent
  exact ⟨c', by rw [hn, ← hevent]⟩

end Session

end TableShell
