import TableShell.Proofs.TableResults
import TableShell.Session

namespace TableShell.Session

theorem statement_of_read_error {s : Session} {fault : Fault} (h : s.read.1 = .error fault) :
    s.statement = (.error fault, s.read.2) := by
  change carryOut (s.read.1, s.read.2) = _
  rw [h]
  rfl

theorem statement_of_read_ok {s : Session} {statement : Statement} (h : s.read.1 = .ok statement) :
    s.statement = s.read.2.execute statement := by
  change carryOut (s.read.1, s.read.2) = _
  rw [h]
  rfl

section Output

variable {s : Session} {statement : Statement} {effect : Effect} {fault : Fault}

theorem execute_of_effect_error
    (he : (statement.effect s.dir s.database
      (s.folder.serve (statement.request s.dir s.database)).1).1 = .error fault) :
    let served := s.folder.serve (statement.request s.dir s.database)
    s.execute statement = (.error fault, { s with
      folder := served.2
      database := (statement.effect s.dir s.database served.1).2 }) := by
  simp only [execute, he]

theorem execute_of_fits
    (he : (statement.effect s.dir s.database
      (s.folder.serve (statement.request s.dir s.database)).1).1 = .ok effect)
    (hw : (s.output.write .answer effect.text).1 = true) :
    s.execute statement = (.ok effect.more, { s with
      folder := (s.folder.serve (statement.request s.dir s.database)).2
      database := effect.database
      output := (s.output.write .answer effect.text).2 }) := by
  simp only [execute, he]
  split <;> rename_i h <;> rw [h] at hw ⊢
  cases hw

theorem execute_of_full
    (he : (statement.effect s.dir s.database
      (s.folder.serve (statement.request s.dir s.database)).1).1 = .ok effect)
    (hw : (s.output.write .answer effect.text).1 = false) :
    let served := s.folder.serve (statement.request s.dir s.database)
    s.execute statement = (.error outputFull, { s with
      folder := served.2
      database := (statement.effect s.dir s.database served.1).2
      output := (s.output.write .answer effect.text).2 }) := by
  simp only [execute, he]
  split <;> rename_i h <;> rw [h] at hw ⊢
  cases hw

theorem output_execute (s : Session) (statement : Statement) :
    (s.execute statement).2.output = s.output ∨
      ∃ text, (s.execute statement).2.output = (s.output.write .answer text).2 := by
  simp only [execute]
  split
  · exact .inl rfl
  · rename_i effect _
    refine .inr ⟨effect.text, ?_⟩
    split <;> rename_i hw <;> rw [hw]

theorem conclude_of_fits (hw : (s.output.write .answer (report fault)).1 = true) :
    conclude (.error fault, s) =
      (none, { s with output := (s.output.write .answer (report fault)).2 }.skip) := by
  simp only [conclude]
  split <;> rename_i h <;> rw [h] at hw ⊢
  cases hw

theorem conclude_of_full (hw : (s.output.write .answer (report fault)).1 = false) :
    conclude (.error fault, s) = (some (.error outputFull),
      { s with output := (s.output.write .answer (report fault)).2 }) := by
  simp only [conclude]
  split <;> rename_i h <;> rw [h] at hw ⊢
  cases hw

end Output

/-- What may be asked of a session. A round is one statement of a run, with its report. -/
inductive Call
  | statement
  | skip
  | round
  | run
  | execute (statement : Statement)
  deriving DecidableEq, Repr

/-- The call carries out no statement from elsewhere but those with the property. -/
def Call.Within (Q : Statement → Prop) : Call → Prop
  | .execute asked => Q asked
  | _ => True

theorem Call.within_true (c : Call) : c.Within fun _ => True := by
  cases c <;> trivial

def call (s : Session) : Call → Session
  | .statement => s.statement.2
  | .skip => s.skip
  | .round => s.round.2
  | .run => s.run.2
  | .execute statement => (s.execute statement).2

def calls (s : Session) (cs : List Call) : Session := cs.foldl call s

/-- The steps of every call keep `P`, if the statements carried out have `Q`. -/
structure Kept (P : Session → Prop) (Q : Statement → Prop) : Prop where
  read : ∀ {s}, P s → P s.read.2
  readable : ∀ {s statement}, P s → s.read.1 = .ok statement → Q statement
  execute : ∀ {s statement}, P s → Q statement → P (s.execute statement).2
  skip : ∀ {s}, P s → P s.skip
  report : ∀ {s} text, P s → P { s with output := (s.output.write .answer text).2 }

namespace Kept

variable {P : Session → Prop} {Q : Statement → Prop} {s : Session}

theorem statement (k : Kept P Q) (h : P s) : P s.statement.2 := by
  cases hr : s.read.1 with
  | error fault =>
    rw [statement_of_read_error hr]
    exact k.read h
  | ok statement =>
    rw [statement_of_read_ok hr]
    exact k.execute (k.read h) (k.readable h hr)

theorem conclude (k : Kept P Q) {result : Except Fault Bool} (h : P s) :
    P (Session.conclude (result, s)).2 := by
  match result with
  | .ok true => exact h
  | .ok false => exact h
  | .error fault =>
    have hreport := k.report (Session.report fault) h
    simp only [Session.conclude]
    split <;> rename_i hw <;> rw [hw] at hreport
    · exact k.skip hreport
    · exact hreport

theorem round (k : Kept P Q) (h : P s) : P s.round.2 := k.conclude (k.statement h)

theorem run (k : Kept P Q) (h : P s) : P s.run.2 := by
  fun_induction Session.run s with
  | case1 s after hr ih =>
    have hround := k.round h
    rw [hr] at hround
    exact ih hround
  | case2 s result after hr =>
    have hround := k.round h
    rwa [hr] at hround

theorem call (k : Kept P Q) {c : Call} (hc : c.Within Q) (h : P s) : P (s.call c) := by
  cases c with
  | statement => exact k.statement h
  | skip => exact k.skip h
  | round => exact k.round h
  | run => exact k.run h
  | execute statement => exact k.execute h hc

theorem calls (k : Kept P Q) {cs : List Call} (hcs : ∀ c ∈ cs, c.Within Q) (h : P s) :
    P (s.calls cs) := by
  induction cs generalizing s with
  | nil => exact h
  | cons c cs ih =>
    obtain ⟨hc, hcs⟩ := List.forall_mem_cons.mp hcs
    exact ih hcs (k.call hc h)

end Kept

theorem database_execute (s : Session) (statement : Statement) :
    let file := (s.folder.serve (statement.request s.dir s.database)).1
    (statement.effect s.dir s.database file).2 = (s.execute statement).2.database ∨
      ∃ effect, (statement.effect s.dir s.database file).1 = .ok effect ∧
        effect.database = (s.execute statement).2.database := by
  simp only [execute]
  split
  · exact .inl rfl
  · rename_i he
    split
    · exact .inr ⟨_, he, rfl⟩
    · exact .inl rfl

theorem all_execute {P : String → Table → Prop} {s : Session} {statement : Statement}
    (h : let file := (s.folder.serve (statement.request s.dir s.database)).1
      (statement.effect s.dir s.database file).2.All P ∧
        ∀ effect, (statement.effect s.dir s.database file).1 = .ok effect →
          effect.database.All P) :
    (s.execute statement).2.database.All P := by
  obtain ⟨hbefore, hafter⟩ := h
  obtain hdb | ⟨effect, he, hdb⟩ := s.database_execute statement
  · rw [← hdb]
    exact hbefore
  · rw [← hdb]
    exact hafter effect he

theorem kept_valid : Kept (fun s => s.database.Valid) (fun _ => True) where
  read h := h
  readable _ _ := trivial
  execute h _ := all_execute (Statement.valid_effect h _ _ _)
  skip h := h
  report _ h := h

inductive Obtained (db : Database) : Table → Prop
  | stored {name : String} {t : Table} (h : db.get? name = some t) : Obtained db t
  | selected {q : Query} {t : Table} (h : db.select q = .ok t) : Obtained db t
  | filed {path : String} {contents : ByteArray} {t : Table}
      (h : Table.ofFile path contents = .ok t) : Obtained db t
  | joined {left right t : Table} (hl : Obtained db left) (hr : Obtained db right)
      (h : left.join right = .ok t) : Obtained db t

theorem Obtained.valid {db : Database} (hdb : db.Valid) {t : Table} (h : Obtained db t) :
    t.Valid := by
  cases h with
  | stored h => exact hdb _ _ h
  | selected h => exact Database.valid_select h
  | filed h => exact Table.valid_ofFile h
  | joined _ _ h => exact Table.valid_join h

/-- After any calls, every table in the database and every table that can be had from it has
distinct titles, columns of one length, and an index that puts its rows in strictly ascending
order. -/
theorem valid_of_obtained (lines : List String) (dir : String) (folder : Folder) (output : Output)
    (prompting : Bool) (cs : List Call) {t : Table}
    (h : Obtained ((new lines dir folder output prompting).calls cs).database t) :
    t.Valid ∧ t.columns.length = t.titles.length ∧
      ∀ column ∈ t.columns, column.length = t.size := by
  have hdb : ((new lines dir folder output prompting).calls cs).database.Valid :=
    kept_valid.calls (fun c _ => by cases c <;> trivial) (Database.all_empty _)
  have ht := h.valid hdb
  exact ⟨ht, t.length_columns, ht.length_of_mem_columns⟩

theorem valid_of_swapped_columns :
    let t : Table := ⟨["a", "b"], [["x", "2"], ["y", "1"], ["x", "1"]], [2, 0, 1]⟩
    t.Valid ∧ t.columns.length = t.titles.length ∧
      ∀ column ∈ t.columns, column.length = t.size :=
  valid_of_obtained [] "" .empty .unlimited false
    [.execute (.create "t" (.columns ["b", "a"])),
      .execute (.insert "t" [["2", "x"], ["1", "y"], ["2", "x"]]),
      .execute (.insert "t" [["3", "z"], ["4"]]), .skip, .execute (.insert "t" [["1", "x"]])]
    (.selected (q := ⟨["a", "b"], ["t"], []⟩) (by rfl))

end TableShell.Session
