import TableShell.Proofs.Atomicity
import TableShell.Proofs.Reading
import TableShell.Proofs.ScannedTokens

namespace TableShell

namespace Output

variable {o : Output}

theorem write_of_unlimited (h : o.room = none) (kind : PartKind) (text : String) :
    o.write kind text = (true, { o with parts := (kind, text.toUTF8) :: o.parts }) := by
  simp [write, h]

theorem room_foldl_prompts (h : o.room = none) (prompts : List Prompt) :
    (prompts.foldl (fun output prompt => (output.write .prompt prompt.text).2) o).room = none := by
  induction prompts generalizing o with
  | nil => exact h
  | cons prompt rest ih =>
    apply ih
    dsimp only
    rw [write_of_unlimited h]
    exact h

theorem answers_write_empty (o : Output) (kind : PartKind) :
    (o.write kind "").2.answers = o.answers := by
  have hempty : ∀ room, ByteArray.empty.extract 0 room = ByteArray.empty :=
    fun room => ByteArray.size_eq_zero_iff.mp (by simp)
  rw [write]
  cases kind <;> split <;> simp [answers, bytes, hempty]

end Output

namespace Session

variable {s s' : Session}

def events (s : Session) : List Event := s.reader.tokens.drain.1

theorem events_eq (s : Session) : s.events = s.reader.tokens.events :=
  s.reader.tokens.drain_eq_events

theorem events_new (lines : List String) (dir : String) (folder : Folder) (output : Output)
    (prompting : Bool) :
    (new lines dir folder output prompting).events =
      Source.eventsFrom 0 false lines ++ [.ok ⟨.endOfInput, lines.length⟩] :=
  (events_eq _).trans (Tokens.events_ofLines lines)

theorem ended_events (s : Session) : Ended s.events := by
  rw [events_eq]
  exact s.reader.tokens.ended_events

theorem events_skip (s : Session) :
    s.skip.events = if s.reader.complete then s.events else beyond s.events := by
  rw [events_eq, events_eq, ← Reader.events_skip]
  rfl

theorem reader_statement (s : Session) : s.statement.2.reader = s.read.2.reader := by
  cases hr : s.read.1 with
  | error fault => rw [statement_of_read_error hr]
  | ok statement => rw [statement_of_read_ok hr, reader_execute]

theorem events_statement (s : Session) :
    (if s.statement.2.reader.complete then s.statement.2.events else beyond s.statement.2.events) =
      beyond s.events := by
  rw [events_eq, events_eq, reader_statement]
  exact Reader.events_statement s.reader

theorem events_skip_statement (s : Session) : s.statement.2.skip.events = beyond s.events := by
  rw [events_skip, events_statement]

theorem read_eq_reading (s : Session) : s.read.1 = Draft.empty.reading s.events := by
  rw [events_eq]
  exact Reader.statement_eq_reading s.reader

theorem complete_of_statement_eq_ok {more : Bool} (h : s.statement = (.ok more, s')) :
    s'.reader.complete = true := by
  have hreader := s.reader_statement
  rw [h] at hreader
  cases hr : s.read.1 with
  | error fault =>
    rw [statement_of_read_error hr] at h
    cases h
  | ok statement =>
    rw [hreader]
    exact (Reader.complete_statement s.reader).trans (congrArg Except.isOk hr)

theorem events_of_round (h : s.round = (none, s')) : s'.events = beyond s.events := by
  rw [round] at h
  have hall := events_statement s
  cases hs : s.statement with
  | mk result after =>
    rw [hs] at h hall
    match result with
    | .ok true =>
      cases h
      rwa [complete_of_statement_eq_ok hs] at hall
    | .ok false => cases h
    | .error fault =>
      simp only [conclude] at h
      split at h <;> cases h
      rw [events_skip]
      exact hall

/-- The result of a statement, the tables and files after it, and its answer. All that matters of
the output is whether it takes the answer. -/
def outcome (dir : String) (db : Database) (folder : Folder) (written : Bool)
    (statement : Statement) : Except Fault Bool × Database × Folder × String :=
  let served := folder.serve (statement.request dir db)
  let carried := statement.effect dir db served.1
  match carried.1, written with
  | .error fault, _ => (.error fault, carried.2, served.2, "")
  | .ok effect, true => (.ok effect.more, effect.database, served.2, effect.text)
  | .ok _, false => (.error outputFull, carried.2, served.2, "")

def result (dir : String) (db : Database) (folder : Folder) (written : Bool)
    (segment : List Event) : Except Fault Bool × Database × Folder × String :=
  match Draft.empty.reading segment with
  | .error fault => (.error fault, db, folder, "")
  | .ok statement => outcome dir db folder written statement

def Unlimited (s : Session) : Prop := s.output.room = none

theorem unlimited_showPrompts (h : s.Unlimited) : s.showPrompts.Unlimited := by
  simp only [Unlimited, showPrompts]
  split
  · exact Output.room_foldl_prompts h _
  · exact h

theorem kept_unlimited : Kept Unlimited (fun _ => True) where
  read h := unlimited_showPrompts h
  readable _ _ := trivial
  execute {s statement} h _ := by
    rw [Unlimited]
    obtain ho | ⟨text, ho⟩ := s.output_execute statement <;> rw [ho]
    · exact h
    · rw [Output.write_of_unlimited h]
      exact h
  skip h := unlimited_showPrompts h
  report {s} text h := by
    rw [Unlimited]
    rw [Output.write_of_unlimited h]
    exact h

theorem execute_eq_outcome (s : Session) (statement : Statement) :
    ∃ written text,
      (s.Unlimited → written = true ∧
        (s.execute statement).2.output.answers = s.output.answers ++ text.toUTF8) ∧
      ((s.execute statement).1, (s.execute statement).2.database,
          (s.execute statement).2.folder, text) =
        outcome s.dir s.database s.folder written statement := by
  simp only [execute, outcome]
  split <;> rename_i he
  · exact ⟨true, "", fun _ => ⟨rfl, by simp⟩, by rw [he]⟩
  · rename_i effect
    split <;> rename_i hw
    · refine ⟨true, effect.text, fun hu => ⟨rfl, ?_⟩, by rw [he]⟩
      rw [Output.write_of_unlimited hu] at hw
      cases hw
      simp [Output.answers, Output.bytes]
    · refine ⟨false, "", fun hu => ?_, by rw [he]⟩
      rw [Output.write_of_unlimited hu] at hw
      cases hw

/-- What a round does to tables, files and output is decided by the first segment. -/
theorem statement_eq_result (s : Session) :
    ∃ written text,
      (s.Unlimited → written = true ∧
        s.statement.2.output.answers = s.output.answers ++ text.toUTF8) ∧
      (s.statement.1, s.statement.2.database, s.statement.2.folder, text) =
        result s.dir s.database s.folder written (leading s.events) := by
  have hread := s.read_eq_reading
  rw [← Draft.reading_leading s.ended_events] at hread
  have hanswers := answers_read s
  simp only [result, ← hread]
  cases hr : s.read.1 with
  | error fault =>
    rw [statement_of_read_error hr]
    exact ⟨true, "", fun _ => ⟨rfl, by simpa using hanswers⟩, rfl⟩
  | ok statement =>
    rw [statement_of_read_ok hr]
    obtain ⟨written, text, hw, he⟩ := s.read.2.execute_eq_outcome statement
    rw [hanswers] at hw
    exact ⟨written, text, fun hu => hw (kept_unlimited.read hu), he⟩

def Unchanged (s s' : Session) : Prop :=
  s'.database = s.database ∧ s'.folder = s.folder ∧ s'.output.answers = s.output.answers

/-- The fault is written, on a line of its own, and nothing else happens before the next round. -/
def Reported (s : Session) (fault : Fault) : Prop :=
  ∃ s', s.round = (none, s') ∧ s'.database = s.statement.2.database ∧
    s'.folder = s.statement.2.folder ∧
    s'.output.answers =
      s.statement.2.output.answers ++ ("Error: " ++ fault.message ++ "\n").toUTF8

def Refused (s : Session) : Prop :=
  ∃ fault, s.statement.1 = .error fault ∧ s.Unchanged s.statement.2 ∧
    (s.Unlimited → s.Reported fault)

theorem report_eq (fault : Fault) : report fault = "Error: " ++ fault.message ++ "\n" := rfl

theorem reported_of_error {fault : Fault} (hu : s.Unlimited) (h : s.statement.1 = .error fault) :
    s.Reported fault := by
  have hwrite := Output.write_of_unlimited (kept_unlimited.statement hu) .answer (report fault)
  have hround := conclude_of_fits (congrArg Prod.fst hwrite)
  rw [← show s.statement = (.error fault, s.statement.2) from Prod.ext h rfl] at hround
  refine ⟨_, hround, rfl, rfl, ?_⟩
  rw [← report_eq]
  refine (answers_showPrompts _).trans ?_
  change (s.statement.2.output.write .answer (report fault)).2.answers = _
  rw [hwrite]
  simp [Output.answers, Output.bytes]

theorem refused_of_reading {fault : Fault} (h : Draft.empty.reading s.events = .error fault) :
    s.Refused := by
  have hstatement := statement_of_read_error (s.read_eq_reading.trans h)
  refine ⟨fault, congrArg Prod.fst hstatement, ?_, fun hu => ?_⟩
  · rw [hstatement]
    exact ⟨rfl, rfl, answers_read s⟩
  · exact reported_of_error hu (congrArg Prod.fst hstatement)

theorem conclude_of_ne {answer : Except Fault Bool} (h : answer ≠ .ok false) :
    (s.Unlimited → (conclude (answer, s)).1 = none) ∧
      ∀ ended, (conclude (answer, s)).1 = some ended → ended = .error outputFull := by
  cases answer with
  | ok more =>
    cases more with
    | true => exact ⟨fun _ => rfl, fun _ he => by cases he⟩
    | false => exact absurd rfl h
  | error fault =>
    simp only [conclude]
    split <;> rename_i hw
    · exact ⟨fun _ => rfl, fun _ he => by cases he⟩
    · refine ⟨fun hu => ?_, fun ended he => ?_⟩
      · rw [Output.write_of_unlimited hu] at hw
        cases hw
      · cases he
        rfl

theorem more_of_effect {statement : Statement} {dir : String} {db : Database}
    {file : Except FileError ByteArray} {effect : Effect} (hs : statement ≠ .exit)
    (h : (statement.effect dir db file).1 = .ok effect) : effect.more = true := by
  cases statement with
  | create name definition =>
    obtain ⟨t, -, rfl⟩ := exists_of_map_eq_ok h
    rfl
  | insert name rows =>
    rw [Statement.effect] at h
    split at h
    · cases h
    · obtain ⟨_, -, rfl⟩ := exists_of_map_eq_ok h
      rfl
  | load name =>
    obtain ⟨t, -, rfl⟩ := exists_of_map_eq_ok h
    rfl
  | store name =>
    obtain ⟨t, -, h⟩ := exists_of_bind_eq_ok h
    split at h <;> cases h
    rfl
  | print name =>
    obtain ⟨t, -, rfl⟩ := exists_of_map_eq_ok h
    rfl
  | select q =>
    obtain ⟨t, -, rfl⟩ := exists_of_map_eq_ok h
    rfl
  | exit => exact absurd rfl hs

theorem execute_ne_end {statement : Statement} (hs : statement ≠ .exit) :
    (s.execute statement).1 ≠ .ok false := by
  simp only [execute]
  split
  · simp
  · rename_i effect he
    split <;> simp [more_of_effect hs he]

theorem unchanged_execute_exit (s : Session) : s.Unchanged (s.execute .exit).2 := by
  have hw := Output.answers_write_empty s.output .answer
  simp only [execute, Statement.request, Statement.effect, Folder.serve]
  split <;> rename_i he <;> rw [he] at hw <;> exact ⟨rfl, rfl, hw⟩

/-- A round goes on or ends as its segment says; only a report that cannot be written also ends
it. -/
theorem round_of_reading (s : Session) :
    (Draft.empty.reading s.events = .ok .exit →
      s.round = (some (.ok ()), s.statement.2) ∧ s.Unchanged s.statement.2) ∧
    (Draft.empty.reading s.events ≠ .ok .exit →
      (s.Unlimited → s.round.1 = none) ∧
        ∀ ended, s.round.1 = some ended → ended = .error outputFull) := by
  rw [← s.read_eq_reading]
  constructor
  · intro he
    have hstatement := statement_of_read_ok he
    obtain ⟨hdb, hfolder, hanswers⟩ := unchanged_execute_exit s.read.2
    have hend : s.statement = (.ok false, s.statement.2) := by
      rw [hstatement, ← execute_exit s.read.2]
    refine ⟨?_, ?_⟩
    · rw [round, hend]
      rfl
    · rw [hstatement]
      exact ⟨hdb, hfolder, hanswers.trans (answers_read s)⟩
  · intro hne
    have hmore : s.statement.1 ≠ .ok false := by
      cases hr : s.read.1 with
      | error fault => simp [statement_of_read_error hr]
      | ok statement =>
        rw [statement_of_read_ok hr]
        exact execute_ne_end fun he => hne (by rw [hr, he])
    obtain ⟨hgo, hend⟩ := conclude_of_ne (s := s.statement.2) hmore
    exact ⟨fun hu => hgo (kept_unlimited.statement hu), hend⟩

theorem events_passed (s : Session) :
    (if s.statement.1.isOk then s.statement.2.events else s.statement.2.skip.events) =
      beyond s.events := by
  cases hs : s.statement with
  | mk answer after =>
    have hall := s.events_skip_statement
    rw [hs] at hall
    cases answer with
    | error fault => exact hall
    | ok more => rwa [events_skip, complete_of_statement_eq_ok hs] at hall

theorem statement_of_result {db : Database} {folder : Folder} {more : Bool} {text : String}
    (hu : s.Unlimited)
    (h : result s.dir s.database s.folder true (leading s.events) = (.ok more, db, folder, text)) :
    s.statement.1 = .ok more ∧ s.statement.2.database = db ∧ s.statement.2.folder = folder ∧
      s.statement.2.events = beyond s.events := by
  obtain ⟨written, shown, hw, he⟩ := s.statement_eq_result
  rw [(hw hu).1, h, Prod.mk.injEq, Prod.mk.injEq, Prod.mk.injEq] at he
  obtain ⟨hmore, hdb, hfolder, -⟩ := he
  have hpassed := s.events_passed
  rw [hmore] at hpassed
  exact ⟨hmore, hdb, hfolder, hpassed⟩

/-- A round that does what its segment says and leaves `later` to be read. -/
structure Follows (s : Session) (segment later : List Event) : Prop where
  passed : (if s.statement.1.isOk then s.statement.2.events else s.statement.2.skip.events) = later
  passed_round : ∀ s', s.round = (none, s') → s'.events = later
  decided : ∃ written text,
    (s.Unlimited → written = true ∧
      s.statement.2.output.answers = s.output.answers ++ text.toUTF8) ∧
    (s.statement.1, s.statement.2.database, s.statement.2.folder, text) =
      result s.dir s.database s.folder written segment
  reported : ∀ fault, s.statement.1 = .error fault → s.Unlimited → s.Reported fault
  faulty : ∀ fault, .error fault ∈ segment → s.Refused
  unclosed : (∀ token, .ok token ∈ segment → token.kind ≠ .semicolon) → 1 < segment.length →
    s.Refused ∧ Draft.empty.reading later = .ok .exit ∧
      ∃ token, token.kind = .endOfInput ∧ later = [.ok token]
  exit : Draft.empty.reading segment = .ok .exit →
    s.round = (some (.ok ()), s.statement.2) ∧ s.Unchanged s.statement.2
  more : Draft.empty.reading segment ≠ .ok .exit →
    (s.Unlimited → s.round.1 = none) ∧
      ∀ ended, s.round.1 = some ended → ended = .error outputFull

theorem refused_or_reading (s : Session) :
    s.Refused ∨ ∃ statement, Draft.empty.reading s.events = .ok statement := by
  cases hr : Draft.empty.reading s.events with
  | error fault => exact .inl (refused_of_reading hr)
  | ok statement => exact .inr ⟨statement, rfl⟩

theorem follows_leading (s : Session) : s.Follows (leading s.events) (beyond s.events) := by
  have hend := s.ended_events
  have hlead := Draft.reading_leading hend .empty
  refine ⟨s.events_passed, fun s' => events_of_round, s.statement_eq_result,
    fun fault h hu => reported_of_error hu h, ?_, ?_, ?_, ?_⟩
  · intro fault hm
    obtain h | ⟨statement, h⟩ := s.refused_or_reading
    · exact h
    · exact absurd hm (Draft.not_mem_leading_of_reading_eq_ok hend h fault)
  · intro hs hlong
    obtain ⟨token, hk, hb⟩ := hend.beyond_of_unclosed hs
    refine ⟨?_, ?_, token, hk, hb⟩
    · obtain h | ⟨statement, h⟩ := s.refused_or_reading
      · exact h
      · obtain ⟨closing, hm, hc⟩ | ⟨-, hone⟩ := Draft.mem_semicolon_of_reading_eq_ok hend h
        · exact absurd hc (hs closing hm)
        · omega
    · rw [hb]
      exact Draft.reading_end hk
  · rw [hlead]
    exact s.round_of_reading.1
  · rw [hlead]
    exact s.round_of_reading.2

namespace Follows

variable {segment later : List Event} {fault : Fault} {db : Database} {folder : Folder}
  (h : s.Follows segment later) (hu : s.Unlimited)
  (hr : result s.dir s.database s.folder true segment = (.error fault, db, folder, ""))

include h hu hr

theorem fails :
    s.statement.1 = .error fault ∧ s.statement.2.database = db ∧ s.statement.2.folder = folder ∧
      s.statement.2.output.answers = s.output.answers := by
  obtain ⟨written, text, hw, he⟩ := h.decided
  obtain ⟨rfl, hanswers⟩ := hw hu
  rw [hr] at he
  obtain ⟨hfault, hdb, hfolder, rfl⟩ := by simpa only [Prod.mk.injEq] using he
  exact ⟨hfault, hdb, hfolder, by simpa using hanswers⟩

theorem reports :
    ∃ s', s.round = (none, s') ∧ s'.Unlimited ∧ s'.database = db ∧ s'.folder = folder ∧
      s'.output.answers = s.output.answers ++ ("Error: " ++ fault.message ++ "\n").toUTF8 := by
  obtain ⟨hfault, hdb, hfolder, hanswers⟩ := h.fails hu hr
  obtain ⟨s', hround, hdb', hfolder', hreport⟩ := h.reported fault hfault hu
  have hafter := kept_unlimited.round hu
  rw [hround] at hafter
  exact ⟨s', hround, hafter, hdb'.trans hdb, hfolder'.trans hfolder, hanswers ▸ hreport⟩

end Follows

def rounds (s : Session) : Nat → Option Session
  | 0 => some s
  | n + 1 =>
    match s.round with
    | (none, s) => s.rounds n
    | (some _, _) => none

theorem rounds_succ {n : Nat} (h : s.round = (none, s')) : s.rounds (n + 1) = s'.rounds n := by
  rw [rounds, h]

theorem exists_round_of_rounds {n : Nat} (h : s.rounds (n + 1) = some s') :
    ∃ first, s.round = (none, first) ∧ first.rounds n = some s' := by
  rw [rounds] at h
  split at h
  · exact ⟨_, ‹_›, h⟩
  · cases h

theorem Kept.rounds {P : Session → Prop} {Q : Statement → Prop} (k : Kept P Q) {n : Nat}
    (hr : s.rounds n = some s') (h : P s) : P s' := by
  induction n generalizing s with
  | zero =>
    cases hr
    exact h
  | succ n ih =>
    obtain ⟨first, hf, hr⟩ := exists_round_of_rounds hr
    have hround := k.round h
    rw [hf] at hround
    exact ih hr hround

theorem events_of_rounds {n : Nat} (h : s.rounds n = some s') :
    s'.events = remaining n s.events := by
  induction n generalizing s with
  | zero =>
    cases h
    exact (ended_events _).remaining_zero.symm
  | succ n ih =>
    obtain ⟨first, hf, hr⟩ := exists_round_of_rounds h
    rw [ih hr, events_of_round hf, remaining_succ s.ended_events]

theorem run_of_round {result : Except Fault Unit} (h : s.round = (some result, s')) :
    s.run = (result, s') := by
  rw [run]
  split <;> rename_i hr <;> rw [h] at hr <;> cases hr
  rfl

theorem run_of_round_none (h : s.round = (none, s')) : s.run = s'.run := by
  rw [run]
  split <;> rename_i hr <;> rw [h] at hr <;> cases hr
  rfl

theorem run_of_rounds {n : Nat} (h : s.rounds n = some s') : s.run = s'.run := by
  induction n generalizing s with
  | zero =>
    cases h
    rfl
  | succ n ih =>
    obtain ⟨first, hfirst, hrest⟩ := exists_round_of_rounds h
    rw [run_of_round_none hfirst]
    exact ih hrest

theorem exists_last_round (s : Session) (n : Nat)
    (h : Draft.empty.reading (segmentAt n s.events) = .ok .exit) :
    ∃ m last, m ≤ n ∧ s.rounds m = some last ∧ last.round = (some s.run.1, s.run.2) ∧
      ∀ k < m, Draft.empty.reading (segmentAt k s.events) ≠ .ok .exit := by
  induction n generalizing s with
  | zero =>
    rw [segmentAt_zero s.ended_events] at h
    obtain ⟨hr, -⟩ := s.follows_leading.exit h
    refine ⟨0, s, Nat.le_refl 0, rfl, ?_, fun k hk => absurd hk (Nat.not_lt_zero k)⟩
    rw [run_of_round hr, hr]
  | succ n ih =>
    cases hr : s.round with
    | mk result after =>
      cases result with
      | some result =>
        refine ⟨0, s, Nat.zero_le _, rfl, ?_, fun k hk => absurd hk (Nat.not_lt_zero k)⟩
        rw [run_of_round hr, hr]
      | none =>
        have hafter := events_of_round hr
        have hsucc : ∀ k, segmentAt (k + 1) s.events = segmentAt k after.events := by
          intro k
          rw [hafter, segmentAt_succ s.ended_events]
        rw [hsucc] at h
        obtain ⟨m, last, hm, hlast, hrun, hbefore⟩ := ih after h
        refine ⟨m + 1, last, by omega, (rounds_succ hr).trans hlast, ?_, ?_⟩
        · rw [run_of_round_none hr]
          exact hrun
        · intro k hk
          cases k with
          | zero =>
            intro he
            rw [segmentAt_zero s.ended_events] at he
            rw [(s.follows_leading.exit he).1] at hr
            cases hr
          | succ k =>
            rw [hsucc]
            exact hbefore k (by omega)

theorem reading_after_segments (s : Session) :
    Draft.empty.reading (segmentAt (segments s.events).length s.events) = .ok .exit := by
  obtain ⟨token, hk, hl⟩ := s.ended_events.getLast?_eq
  simp [segmentAt, hl, Draft.reading_end hk]

/-- The rounds of a run follow the segments of what is left to be read, one by one, and the run
ends, without doing anything more, at the first segment that says exit; the end of input says so
too. Only an output that is full can end it earlier. -/
theorem run_follows_segments (s : Session) :
    (∀ n after, s.rounds n = some after →
      after.events = remaining n s.events ∧
        after.Follows (segmentAt n s.events) (remaining (n + 1) s.events)) ∧
    ∃ n last, n ≤ (segments s.events).length ∧ s.rounds n = some last ∧
      last.round = (some s.run.1, s.run.2) ∧
      (∀ k < n, Draft.empty.reading (segmentAt k s.events) ≠ .ok .exit) ∧
      (s.Unlimited → s.run.1 = .ok () ∧
        Draft.empty.reading (segmentAt n s.events) = .ok .exit ∧ last.Unchanged s.run.2) := by
  have hfollows : ∀ n after, s.rounds n = some after →
      after.events = remaining n s.events ∧
        after.Follows (segmentAt n s.events) (remaining (n + 1) s.events) := by
    intro n after hr
    have he := events_of_rounds hr
    have hf := after.follows_leading
    rw [he, leading_remaining s.ended_events, beyond_remaining s.ended_events] at hf
    exact ⟨he, hf⟩
  refine ⟨hfollows, ?_⟩
  obtain ⟨n, last, hn, hlast, hrun, hbefore⟩ := s.exists_last_round _ s.reading_after_segments
  refine ⟨n, last, hn, hlast, hrun, hbefore, fun hu => ?_⟩
  obtain ⟨-, hf⟩ := hfollows n last hlast
  have hexit : Draft.empty.reading (segmentAt n s.events) = .ok .exit := by
    apply Classical.byContradiction
    intro hne
    have hnone := (hf.more hne).1 (kept_unlimited.rounds hlast hu)
    rw [hrun] at hnone
    cases hnone
  obtain ⟨hround, hsame⟩ := hf.exit hexit
  rw [hrun, Prod.mk.injEq, Option.some.injEq] at hround
  obtain ⟨hok, hlaststate⟩ := hround
  exact ⟨hok, hexit, hlaststate ▸ hsame⟩

theorem run_follows_three_segments :
    let s := new ["'", ";print t;", "store t"] "" .empty .unlimited false
    s.Refused ∧ (∃ second, s.rounds 1 = some second ∧ second.Reported (.unknownTable "t")) ∧
      (∃ third, s.rounds 2 = some third ∧ third.Refused) ∧
      s.run.1 = .ok () ∧ s.run.2.output.answers = ("Error: line 1: unterminated literal\n" ++
        "Error: unknown table: t\n" ++
        "Error: line 3: expected ';', found end of input\n").toUTF8 := by
  intro s
  have hev : s.events = [.error (.lexical 1 "unterminated literal"), .ok ⟨.semicolon, 2⟩,
      .ok ⟨.keyword .print, 2⟩, .ok ⟨.identifier "t", 2⟩, .ok ⟨.semicolon, 2⟩,
      .ok ⟨.keyword .store, 3⟩, .ok ⟨.identifier "t", 3⟩, .ok ⟨.endOfInput, 3⟩] := by
    simp +decide [s, events_new, Source.eventsFrom, Scan.line, Scan.text_nil, Scan.text_cons,
      Scan.lexeme, Scan.literal, Comparison.read?, Lexeme.at]
  obtain ⟨hfollows, n, last, hn, hlast, -, -, hend⟩ := run_follows_segments s
  have hliteral : result s.dir s.database s.folder true (segmentAt 0 s.events) =
      (.error (.lexical 1 "unterminated literal"), s.database, s.folder, "") := by
    rw [hev]
    rfl
  have hfirst := (hfollows 0 s rfl).2
  obtain ⟨second, hs, hsu, hsdb, -, hsa⟩ := hfirst.reports rfl hliteral
  have hunknown : result second.dir second.database second.folder true (segmentAt 1 s.events) =
      (.error (.unknownTable "t"), second.database, second.folder, "") := by
    rw [hev, hsdb]
    rfl
  have hsecond := (hfollows 1 second (rounds_succ hs)).2
  obtain ⟨third, ht, htu, -, -, hta⟩ := hsecond.reports hsu hunknown
  have hcut : result third.dir third.database third.folder true (segmentAt 2 s.events) =
      (.error (.unexpectedToken "';'" "end of input" 3), third.database, third.folder, "") := by
    rw [hev]
    rfl
  have htwo : s.rounds 2 = some third := (rounds_succ hs).trans (rounds_succ ht)
  have hthird := (hfollows 2 third htwo).2
  obtain ⟨fourth, hf, -, -, -, hfa⟩ := hthird.reports htu hcut
  have hthree : s.rounds 3 = some fourth :=
    (rounds_succ hs).trans ((rounds_succ ht).trans (rounds_succ hf))
  rw [hev] at hn hend hfirst hthird
  obtain ⟨hok, hexit, -, -, hanswers⟩ := hend rfl
  -- no segment before the end of input says exit
  have hlen : n ≤ 3 := hn
  obtain rfl | rfl | rfl | rfl : n = 0 ∨ n = 1 ∨ n = 2 ∨ n = 3 := by omega
  · cases hexit
  · cases hexit
  · cases hexit
  · obtain rfl : fourth = last := Option.some.inj (hthree.symm.trans hlast)
    have hcutoff : third.Refused := by
      refine (hthird.unclosed (fun token hm => ?_) (by decide)).1
      obtain rfl | rfl | rfl : token = ⟨.keyword .store, 3⟩ ∨ token = ⟨.identifier "t", 3⟩ ∨
          token = ⟨.endOfInput, 3⟩ := by simpa [segmentAt, segments, isSemicolon] using hm
      all_goals decide
    refine ⟨hfirst.faulty _ List.mem_cons_self, ⟨second, rounds_succ hs, ?_⟩,
      ⟨third, htwo, hcutoff⟩, hok, ?_⟩
    · exact hsecond.reported _ (hsecond.fails hsu hunknown).1 hsu
    · rw [hanswers, hfa, hta, hsa]
      decide +kernel

end Session

end TableShell
