import TableShell.Output
import TableShell.Statement.Effect
import TableShell.Statement.Reader

namespace TableShell

structure Session where
  reader : Reader
  database : Database
  /-- Where tables are loaded from and stored. -/
  dir : String
  folder : Folder
  output : Output
  prompting : Bool

namespace Session

def new (lines : List String) (dir : String) (folder : Folder) (output : Output)
    (prompting : Bool) : Session :=
  ⟨.ofLines lines, .empty, dir, folder, output, prompting⟩

def outputFull : Fault := .io "failed to write whole buffer"

/-- Takes the prompts that reading asked for, and writes them if the session is prompting. A prompt
that cannot be written is not missed. -/
def showPrompts (s : Session) : Session :=
  let asked := s.reader.tokens.collectPrompts
  { s with
    reader := { s.reader with tokens := asked.2 }
    output :=
      if s.prompting then
        asked.1.foldl (fun output prompt => (output.write .prompt prompt.text).2) s.output
      else s.output }

def read (s : Session) : Except Fault Statement × Session :=
  let read := s.reader.statement
  (read.1, { s with reader := read.2 }.showPrompts)

def execute (s : Session) (statement : Statement) : Except Fault Bool × Session :=
  let served := s.folder.serve (statement.request s.dir s.database)
  let carried := statement.effect s.dir s.database served.1
  let s := { s with folder := served.2, database := carried.2 }
  match carried.1 with
  | .error fault => (.error fault, s)
  | .ok effect =>
    match s.output.write .answer effect.text with
    | (true, output) => (.ok effect.more, { s with output, database := effect.database })
    | (false, output) => (.error outputFull, { s with output })

def carryOut : Except Fault Statement × Session → Except Fault Bool × Session
  | (.error fault, s) => (.error fault, s)
  | (.ok statement, s) => s.execute statement

def statement (s : Session) : Except Fault Bool × Session := carryOut s.read

def skip (s : Session) : Session := { s with reader := s.reader.skip }.showPrompts

def report (fault : Fault) : String := s!"Error: {fault.message}\n"

/-- Reports a statement that failed and passes the rest of it. There is a result if the session is
over; only a report that cannot be written ends it early. -/
def conclude : Except Fault Bool × Session → Option (Except Fault Unit) × Session
  | (.ok true, s) => (none, s)
  | (.ok false, s) => (some (.ok ()), s)
  | (.error fault, s) =>
    match s.output.write .answer (report fault) with
    | (true, output) => (none, { s with output }.skip)
    | (false, output) => (some (.error outputFull), { s with output })

def round (s : Session) : Option (Except Fault Unit) × Session := conclude s.statement

def rank (s : Session) : Rank := s.reader.tokens.rank

theorem reader_execute (s : Session) (statement : Statement) :
    (s.execute statement).2.reader = s.reader := by
  unfold execute
  dsimp only
  split
  · rfl
  · split <;> rfl

theorem execute_exit (s : Session) : (s.execute .exit).1 = .ok false := by
  have hw := Output.write_empty s.output .answer
  simp only [execute, Statement.request, Statement.effect, Folder.serve]
  split
  · rfl
  · rename_i h
    rw [h] at hw
    cases hw

theorem rank_statement_lt {s s' : Session} (h : s.statement = (.ok true, s')) :
    s'.rank < s.rank := by
  unfold statement read at h
  dsimp only at h
  cases hr : s.reader.statement.1 with
  | error fault =>
    rw [hr] at h
    cases h
  | ok statement =>
    rw [hr] at h
    have hs : statement ≠ .exit := by
      intro he
      subst he
      have hx := congrArg Prod.fst h
      rw [carryOut, execute_exit] at hx
      cases hx
    have he := congrArg (fun r => r.2.reader.tokens.rank) h
    simp only [carryOut, reader_execute] at he
    change s'.reader.tokens.rank < _
    rw [← he]
    exact Reader.rank_statement_lt hr hs

theorem rank_skip_lt {s s' : Session} {fault : Fault} (h : s.statement = (.error fault, s'))
    (output : Output) : { s' with output }.skip.rank < s.rank := by
  unfold statement read at h
  dsimp only at h
  cases hr : s.reader.statement.1 with
  | error fault =>
    have hc : s.reader.statement.2.complete = false := by
      rw [Reader.complete_statement, hr]
      rfl
    rw [hr] at h
    cases h
    have hstuck : Reader.Stuck s.reader.tokens s.reader.statement.2.tokens.collectPrompts.2 :=
      Reader.stuck_statement hr
    have hlt := hstuck.rank_skipTokens_lt
    simp only [skip, Reader.skip, showPrompts, hc, rank]
    exact hlt
  | ok statement =>
    rw [hr] at h
    have hs : statement ≠ .exit := by
      intro he
      subst he
      have hx := congrArg Prod.fst h
      rw [carryOut, execute_exit] at hx
      cases hx
    have hc : s.reader.statement.2.complete = true := by
      rw [Reader.complete_statement, hr]
      rfl
    have he := congrArg (fun r => r.2.reader) h
    simp only [carryOut, reader_execute] at he
    have hlt := Reader.rank_statement_lt hr hs
    simp only [skip, Reader.skip, showPrompts, ← he, hc, rank]
    exact hlt

theorem rank_round_lt {s s' : Session} (h : s.round = (none, s')) : s'.rank < s.rank := by
  unfold round at h
  cases hs : s.statement with
  | mk result after =>
    rw [hs] at h
    match result with
    | .ok true =>
      cases h
      exact rank_statement_lt hs
    | .ok false => cases h
    | .error fault =>
      unfold conclude at h
      dsimp only at h
      split at h <;> cases h
      exact rank_skip_lt hs _

def run (s : Session) : Except Fault Unit × Session :=
  match _h : s.round with
  | (none, s) => s.run
  | (some result, s) => (result, s)
termination_by s.rank
decreasing_by exact rank_round_lt _h

end Session

end TableShell
