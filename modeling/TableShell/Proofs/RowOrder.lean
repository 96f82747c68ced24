import TableShell.Proofs.Rounds
import TableShell.Proofs.SameRows

namespace TableShell

def Fileless (events : List Event) : Prop :=
  ∀ segment ∈ segments events, ∀ statement, Draft.empty.reading segment = .ok statement →
    statement.Fileless

namespace Fileless

variable {events : List Event} {statement : Statement}

theorem of_reading (h : Fileless events) (hend : Ended events)
    (hr : Draft.empty.reading events = .ok statement) : statement.Fileless := by
  rw [← Draft.reading_leading hend] at hr
  refine h (leading events) ?_ statement hr
  obtain ⟨hseg, -⟩ | ⟨hseg, -⟩ := hend.cut <;> simp [hseg]

theorem beyond (h : Fileless events) (hend : Ended events) :
    Fileless (TableShell.beyond events) := by
  intro segment hm statement hr
  obtain ⟨hseg, -⟩ | ⟨-, -, hbeyond⟩ := hend.cut
  · exact h segment (hseg ▸ List.mem_cons_of_mem _ hm) statement hr
  · obtain ⟨token, hk, hlast⟩ := hend.getLast?_eq
    rw [hbeyond, hlast] at hm
    have hone : segment = [.ok token] := by
      simpa [segments, isSemicolon, hk] using hm
    rw [hone, Draft.reading_end hk] at hr
    cases hr
    exact fun name => ⟨by simp, by simp⟩

end Fileless

namespace Session

/-- The sessions differ in the order of rows alone. -/
structure Alike (s s' : Session) : Prop where
  reader_eq : s.reader = s'.reader
  dir_eq : s.dir = s'.dir
  folder_eq : s.folder = s'.folder
  output_eq : s.output = s'.output
  prompting_eq : s.prompting = s'.prompting
  database : s.database.Alike s'.database

variable {s s' : Session}

theorem alike_of_database {db : Database} (h : s.database.Alike db) :
    s.Alike { s with database := db } :=
  ⟨rfl, rfl, rfl, rfl, rfl, h⟩

namespace Alike

theorem eq (h : s.Alike s') : s' = { s with database := s'.database } := by
  obtain ⟨hr, hd, hf, ho, hp, -⟩ := h
  rw [hr, hd, hf, ho, hp]

theorem events_eq (h : s.Alike s') : s.events = s'.events :=
  congrArg (fun r : Reader => r.tokens.drain.1) h.reader_eq

theorem read (h : s.Alike s') : s.read.1 = s'.read.1 ∧ s.read.2.Alike s'.read.2 := by
  rw [h.eq]
  exact ⟨rfl, alike_of_database h.database⟩

theorem skip (h : s.Alike s') : s.skip.Alike s'.skip := by
  rw [h.eq]
  exact alike_of_database h.database

theorem written (h : s.Alike s') (output : Output) :
    { s with output }.Alike { s' with output } :=
  ⟨h.reader_eq, h.dir_eq, h.folder_eq, rfl, h.prompting_eq, h.database⟩

theorem execute (h : s.Alike s') {statement : Statement} (hs : statement.Fileless) :
    (s.execute statement).1 = (s'.execute statement).1 ∧
      (s.execute statement).2.Alike (s'.execute statement).2 := by
  have hdb := h.database
  rw [h.eq]
  simp only [Session.execute, Statement.request_of_fileless hs, Folder.serve]
  obtain ⟨hanswer, hbefore⟩ := Statement.alike_effect hdb hs s.dir (.ok .empty)
  generalize statement.effect s.dir s.database (.ok .empty) = carried at hanswer hbefore
  generalize statement.effect s.dir s'.database (.ok .empty) = carried' at hanswer hbefore
  obtain ⟨answer, before⟩ := carried
  obtain ⟨answer', before'⟩ := carried'
  cases hanswer with
  | error fault => exact ⟨rfl, rfl, rfl, rfl, rfl, rfl, hbefore⟩
  | ok he =>
    dsimp only
    rw [he.text_eq, he.more_eq]
    split
    · exact ⟨rfl, rfl, rfl, rfl, rfl, rfl, he.database⟩
    · exact ⟨rfl, rfl, rfl, rfl, rfl, rfl, hbefore⟩

theorem statement (h : s.Alike s') (hs : Fileless s.events) :
    s.statement.1 = s'.statement.1 ∧ s.statement.2.Alike s'.statement.2 := by
  obtain ⟨hresult, hread⟩ := h.read
  cases hr : s.read.1 with
  | error fault =>
    rw [statement_of_read_error hr, statement_of_read_error (hresult ▸ hr)]
    exact ⟨rfl, hread⟩
  | ok found =>
    rw [statement_of_read_ok hr, statement_of_read_ok (hresult ▸ hr)]
    exact hread.execute (hs.of_reading s.ended_events (s.read_eq_reading ▸ hr))

theorem conclude (h : s.Alike s') (result : Except Fault Bool) :
    (conclude (result, s)).1 = (conclude (result, s')).1 ∧
      (conclude (result, s)).2.Alike (conclude (result, s')).2 := by
  match result with
  | .ok true => exact ⟨rfl, h⟩
  | .ok false => exact ⟨rfl, h⟩
  | .error fault =>
    simp only [Session.conclude, h.output_eq]
    split
    · exact ⟨rfl, (h.written _).skip⟩
    · exact ⟨rfl, h.written _⟩

theorem round (h : s.Alike s') (hs : Fileless s.events) :
    s.round.1 = s'.round.1 ∧ s.round.2.Alike s'.round.2 := by
  obtain ⟨hresult, hafter⟩ := h.statement hs
  have hconclude := hafter.conclude s.statement.1
  have hright : (s.statement.1, s'.statement.2) = s'.statement := by rw [hresult]
  rw [hright] at hconclude
  exact hconclude

theorem exists_round (h : s.Alike s') (hs : Fileless s.events) {result : Option (Except Fault Unit)}
    {after : Session} (hr : s.round = (result, after)) :
    ∃ after', s'.round = (result, after') ∧ after.Alike after' := by
  obtain ⟨hresult, hafter⟩ := h.round hs
  rw [hr] at hresult hafter
  exact ⟨s'.round.2, Prod.ext hresult.symm rfl, hafter⟩

theorem run (h : s.Alike s') (hs : Fileless s.events) :
    s.run.1 = s'.run.1 ∧ s.run.2.Alike s'.run.2 := by
  fun_induction Session.run s generalizing s' with
  | case1 s after hr ih =>
    obtain ⟨after', hr', hafter⟩ := h.exists_round hs hr
    rw [run_of_round_none hr']
    apply ih hafter
    rw [events_of_round hr]
    exact hs.beyond s.ended_events
  | case2 s result after hr =>
    obtain ⟨after', hr', hafter⟩ := h.exists_round hs hr
    rw [run_of_round hr']
    exact ⟨rfl, hafter⟩

/-- The runs are as long as each other, and the sessions differ in the order of rows alone before
each of their rounds. -/
theorem rounds (h : s.Alike s') (hs : Fileless s.events) (n : Nat) :
    Option.Rel (fun t t' => t.Alike t' ∧ Fileless t.events) (s.rounds n) (s'.rounds n) := by
  induction n generalizing s s' with
  | zero => exact .some ⟨h, hs⟩
  | succ n ih =>
    cases hr : s.round with
    | mk result after =>
      obtain ⟨after', hr', hafter⟩ := h.exists_round hs hr
      cases result with
      | some result =>
        rw [Session.rounds, Session.rounds, hr, hr']
        exact .none
      | none =>
        rw [rounds_succ hr, rounds_succ hr']
        apply ih hafter
        rw [events_of_round hr]
        exact hs.beyond s.ended_events

end Alike

/-- Two databases that differ in the order of rows alone make no difference to a run without load
and store: it has the same outcome and writes the same bytes, and before each of its rounds and
after all of them the databases still differ in the order of rows alone. -/
theorem run_of_alike {db : Database} (h : s.database.Alike db) (hs : Fileless s.events) :
    let s' := { s with database := db }
    s.run.1 = s'.run.1 ∧ s.run.2.output.bytes = s'.run.2.output.bytes ∧
      s.run.2.database.Alike s'.run.2.database ∧
      ∀ n, Option.Rel (fun t t' => t.statement.1 = t'.statement.1 ∧ t.round.1 = t'.round.1 ∧
        t.output.bytes = t'.output.bytes ∧ t.database.Alike t'.database)
        (s.rounds n) (s'.rounds n) := by
  intro s'
  have hlike : s.Alike s' := alike_of_database h
  obtain ⟨hresult, hafter⟩ := hlike.run hs
  refine ⟨hresult, congrArg Output.bytes hafter.output_eq, hafter.database, fun n => ?_⟩
  have hrounds := hlike.rounds hs n
  generalize s.rounds n = found, s'.rounds n = found' at hrounds
  cases hrounds with
  | none => exact .none
  | some ht =>
    obtain ⟨ht, hevents⟩ := ht
    exact .some ⟨(ht.statement hevents).1, (ht.round hevents).1,
      congrArg Output.bytes ht.output_eq, ht.database⟩

theorem run_of_alike_swapped :
    let t : Table := ⟨["a"], [["x"], ["y"]], [0, 1]⟩
    let t' : Table := ⟨["a"], [["y"], ["x"]], [1, 0]⟩
    let s : Session := { new ["insert into t values ('z'); select a from t; print t"] ""
      .empty .unlimited false with database := Database.empty.put "t" t }
    let s' : Session := { s with database := Database.empty.put "t" t' }
    s.run.2.output.bytes = s'.run.2.output.bytes ∧ s.run.2.database.Alike s'.run.2.database := by
  intro t t' s s'
  have hlike : t.Alike t' := by
    refine ⟨by constructor <;> decide, by constructor <;> decide, rfl, fun row => ?_⟩
    simp [t, t', or_comm]
  have hempty : Database.empty.Alike Database.empty := fun name => .none
  have hev : s.events = [.ok ⟨.keyword .insert, 1⟩, .ok ⟨.keyword .into, 1⟩,
      .ok ⟨.identifier "t", 1⟩, .ok ⟨.keyword .values, 1⟩, .ok ⟨.leftParen, 1⟩,
      .ok ⟨.literal "z", 1⟩, .ok ⟨.rightParen, 1⟩, .ok ⟨.semicolon, 1⟩, .ok ⟨.keyword .select, 1⟩,
      .ok ⟨.identifier "a", 1⟩, .ok ⟨.keyword .from, 1⟩, .ok ⟨.identifier "t", 1⟩,
      .ok ⟨.semicolon, 1⟩, .ok ⟨.keyword .print, 1⟩, .ok ⟨.identifier "t", 1⟩,
      .ok ⟨.endOfInput, 1⟩] := by
    refine (events_new ["insert into t values ('z'); select a from t; print t"] "" .empty .unlimited
      false).trans ?_
    simp +decide [Source.eventsFrom, Scan.line, Scan.text_nil, Scan.text_cons, Scan.lexeme,
      Scan.literal, Comparison.read?, Lexeme.at]
  have hs : Fileless s.events := by
    rw [hev]
    intro segment hm statement hr
    simp only [segments, isSemicolon, reduceCtorEq, decide_true, decide_false, Bool.false_eq_true,
      if_true, if_false, List.mem_cons, List.not_mem_nil, or_false] at hm
    obtain rfl | rfl | rfl := hm <;> cases hr <;> intro name <;> constructor <;> intro h <;> cases h
  obtain ⟨-, hbytes, hdb, -⟩ := run_of_alike (hempty.put hlike) hs
  exact ⟨hbytes, hdb⟩

end Session

end TableShell
