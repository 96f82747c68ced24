import TableShell.Proofs.Rounds

namespace TableShell

namespace Output

variable {o o' later : Output} {capacity : Nat}

def kinds (o : Output) : List PartKind :=
  o.parts.foldr (fun part kinds => kinds ++ List.replicate part.2.size part.1) []

/-- Behind as many bytes as the capacity allows there is one that belongs to no prompt. -/
def AnswerBeyond (o : Output) (capacity : Nat) : Prop := .answer ∈ o.kinds.drop capacity

instance (o : Output) (capacity : Nat) : Decidable (o.AnswerBeyond capacity) :=
  inferInstanceAs (Decidable (_ ∈ _))

theorem length_kinds (o : Output) : o.kinds.length = o.bytes.size := by
  rw [kinds, bytes]
  induction o.parts with
  | nil => rfl
  | cons part rest ih =>
    rw [List.foldr_cons, List.foldr_cons, List.length_append, List.length_replicate,
      ByteArray.size_append, ih]

theorem AnswerBeyond.lt_size (h : o.AnswerBeyond capacity) : capacity < o.bytes.size := by
  by_contra hle
  have hnil : o.kinds.drop capacity = [] := by
    apply List.drop_eq_nil_of_le
    rw [length_kinds]
    omega
  rw [AnswerBeyond, hnil] at h
  cases h

theorem bytes_write_of_unlimited (h : o.room = none) (kind : PartKind) (text : String) :
    (o.write kind text).2.bytes = o.bytes ++ text.toUTF8 := by
  rw [write_of_unlimited h]
  rfl

theorem room_write {room : Nat} (h : o.room = some room) (kind : PartKind) (text : String) :
    (o.write kind text).2.room = some (room - text.toUTF8.size) := by
  rw [write, h]

theorem bytes_write_of_room {room : Nat} (h : o.room = some room) (kind : PartKind)
    (text : String) :
    (o.write kind text).2.bytes = o.bytes ++ text.toUTF8.extract 0 room := by
  rw [write, h]
  rfl

theorem exists_append_of_suffix (h : o.parts <:+ later.parts) :
    (∃ more, later.bytes = o.bytes ++ more) ∧ o.kinds <+: later.kinds := by
  obtain ⟨parts, hparts⟩ := h
  rw [bytes, bytes, kinds, kinds, ← hparts]
  induction parts generalizing later with
  | nil => exact ⟨⟨ByteArray.empty, by simp⟩, List.prefix_rfl⟩
  | cons part rest ih =>
    obtain ⟨⟨more, hmore⟩, hkinds⟩ := @ih ⟨none, rest ++ o.parts⟩ rfl
    refine ⟨⟨more ++ part.2, ?_⟩, ?_⟩
    · rw [List.cons_append, List.foldr_cons, hmore, ByteArray.append_assoc]
    · exact hkinds.trans (List.prefix_append _ _)

theorem AnswerBeyond.mono (h : o.AnswerBeyond capacity) (hs : o.parts <:+ later.parts) :
    later.AnswerBeyond capacity := by
  obtain ⟨-, more, hmore⟩ := exists_append_of_suffix hs
  rw [AnswerBeyond, ← hmore, List.drop_append]
  exact List.mem_append_left _ h

theorem suffix_write (o : Output) (kind : PartKind) (text : String) :
    o.parts <:+ (o.write kind text).2.parts := by
  rw [write]
  split <;> exact List.suffix_cons _ _

theorem suffix_prompts (o : Output) (asked : List Prompt) :
    o.parts <:+
      (asked.foldl (fun output prompt => (output.write .prompt prompt.text).2) o).parts := by
  induction asked generalizing o with
  | nil => exact List.suffix_rfl
  | cons prompt rest ih => exact (o.suffix_write .prompt prompt.text).trans (ih _)

theorem answerBeyond_write (h : o.room = none) (kind : PartKind) (text : String) :
    (o.write kind text).2.AnswerBeyond capacity ↔
      o.AnswerBeyond capacity ∨
        kind = .answer ∧ capacity - o.bytes.size < text.toUTF8.size := by
  have hkinds : (o.write kind text).2.kinds = o.kinds ++ List.replicate text.toUTF8.size kind := by
    rw [write_of_unlimited h]
    rfl
  rw [AnswerBeyond, hkinds, List.drop_append, List.mem_append, List.drop_replicate,
    List.mem_replicate, length_kinds, AnswerBeyond]
  apply or_congr_right
  constructor
  · rintro ⟨hne, rfl⟩
    exact ⟨rfl, by omega⟩
  · rintro ⟨rfl, hlt⟩
    exact ⟨by omega, rfl⟩

/-- The other output has stored as much of the same as fits into its capacity. -/
structure Cut (capacity : Nat) (o o' : Output) : Prop where
  unlimited : o.room = none
  room : o'.room = some (capacity - o.bytes.size)
  bytes : o'.bytes = o.bytes.extract 0 capacity

namespace Cut

theorem write (h : o.Cut capacity o') (kind : PartKind) (text : String) :
    (o.write kind text).2.Cut capacity (o'.write kind text).2 := by
  refine ⟨?_, ?_, ?_⟩
  · rw [write_of_unlimited h.unlimited]
    exact h.unlimited
  · rw [bytes_write_of_unlimited h.unlimited, ByteArray.size_append, room_write h.room,
      Nat.sub_sub]
  · rw [bytes_write_of_unlimited h.unlimited, bytes_write_of_room h.room, h.bytes,
      ByteArray.extract_append, Nat.zero_sub]

theorem fits_iff (h : o.Cut capacity o') (kind : PartKind) (text : String) :
    (o'.write kind text).1 = true ↔ text.toUTF8.size ≤ capacity - o.bytes.size := by
  simp [Output.write, h.room]

theorem answer_cases (h : o.Cut capacity o') (hb : ¬ o.AnswerBeyond capacity) (text : String) :
    (o'.write .answer text).1 = true ∧ ¬ (o.write .answer text).2.AnswerBeyond capacity ∨
      (o'.write .answer text).1 = false ∧ (o.write .answer text).2.AnswerBeyond capacity := by
  rw [← Bool.not_eq_true, h.fits_iff, answerBeyond_write h.unlimited]
  by_cases hfits : text.toUTF8.size ≤ capacity - o.bytes.size
  · exact .inl ⟨hfits, by rintro (hbeyond | ⟨-, hlt⟩) <;> first | contradiction | omega⟩
  · exact .inr ⟨hfits, .inr ⟨rfl, Nat.lt_of_not_le hfits⟩⟩

theorem of_suffix (h : o.Cut capacity o') (hfull : capacity ≤ o.bytes.size)
    (hroom : later.room = none) (hs : o.parts <:+ later.parts) : later.Cut capacity o' := by
  obtain ⟨⟨more, hmore⟩, -⟩ := exists_append_of_suffix hs
  refine ⟨hroom, ?_, ?_⟩
  · rw [h.room, hmore, ByteArray.size_append]
    congr 1
    omega
  · rw [h.bytes, hmore, ByteArray.extract_append]
    have hnone : more.extract (0 - o.bytes.size) (capacity - o.bytes.size) = ByteArray.empty := by
      apply ByteArray.size_eq_zero_iff.mp
      rw [ByteArray.size_extract]
      omega
    rw [hnone, ByteArray.append_empty]

theorem write_of_full (h : o.Cut capacity o') (hfull : capacity ≤ o.bytes.size) (kind : PartKind)
    (text : String) : o.Cut capacity (o'.write kind text).2 := by
  have hzero : capacity - o.bytes.size = 0 := by omega
  have hroom := h.room
  rw [hzero] at hroom
  refine ⟨h.unlimited, ?_, ?_⟩
  · rw [room_write hroom, hzero, Nat.zero_sub]
  · rw [bytes_write_of_room hroom, h.bytes]
    simp

theorem prompts (h : o.Cut capacity o') (hb : ¬ o.AnswerBeyond capacity) (asked : List Prompt) :
    let ask := fun (output : Output) (prompt : Prompt) => (output.write .prompt prompt.text).2
    (asked.foldl ask o).Cut capacity (asked.foldl ask o') ∧
      ¬ (asked.foldl ask o).AnswerBeyond capacity := by
  induction asked generalizing o o' with
  | nil => exact ⟨h, hb⟩
  | cons prompt rest ih =>
    apply ih (h.write .prompt prompt.text)
    rw [answerBeyond_write h.unlimited]
    simp [hb]

end Cut

end Output

namespace Session

variable {s s' : Session} {capacity : Nat}

/-- The sessions differ in their outputs alone, and nothing but prompts has been cut off. -/
structure Cut (capacity : Nat) (s s' : Session) : Prop where
  same : s' = { s with output := s'.output }
  output : s.output.Cut capacity s'.output
  answers : ¬ s.output.AnswerBeyond capacity

structure Failed (capacity : Nat) (db : Database) (s s' : Session) : Prop where
  output : s.output.Cut capacity s'.output
  beyond : s.output.AnswerBeyond capacity
  database : s'.database = db

theorem suffix_showPrompts (s : Session) : s.output.parts <:+ s.showPrompts.output.parts := by
  simp only [showPrompts]
  split
  · exact Output.suffix_prompts _ _
  · exact List.suffix_rfl

theorem suffix_skip (s : Session) : s.output.parts <:+ s.skip.output.parts :=
  suffix_showPrompts { s with reader := s.reader.skip }

theorem kept_written (parts : List (PartKind × ByteArray)) :
    Kept (fun s => parts <:+ s.output.parts) (fun _ => True) where
  read {s} h := h.trans (suffix_showPrompts { s with reader := s.reader.statement.2 })
  readable _ _ := trivial
  execute {s statement} h _ := by
    obtain ho | ⟨text, ho⟩ := s.output_execute statement <;> rw [ho]
    · exact h
    · exact h.trans (s.output.suffix_write .answer text)
  skip h := h.trans (suffix_skip _)
  report {s} text h := h.trans (s.output.suffix_write .answer text)

theorem Failed.mono {db : Database} {later : Session} (h : Failed capacity db s s')
    (hroom : later.Unlimited) (hs : s.output.parts <:+ later.output.parts) :
    Failed capacity db later s' := by
  have hle := Nat.le_of_lt h.beyond.lt_size
  exact ⟨h.output.of_suffix hle hroom hs, h.beyond.mono hs, h.database⟩

/-- No room is left for the report. -/
theorem Failed.conclude {db : Database} (h : Failed capacity db s s') {result : Except Fault Bool}
    (hok : result.isOk) :
    (conclude (.error outputFull, s')).1 = some (.error outputFull) ∧
      Failed capacity db (conclude (result, s)).2 (conclude (.error outputFull, s')).2 := by
  have hs : (Session.conclude (result, s)).2 = s := by
    match result with
    | .ok true => rfl
    | .ok false => rfl
    | .error fault => cases hok
  have hle := Nat.le_of_lt h.beyond.lt_size
  have hw : (s'.output.write .answer (report outputFull)).1 = false := by
    rw [← Bool.not_eq_true, h.output.fits_iff, Nat.sub_eq_zero_of_le hle]
    decide +kernel
  rw [hs, conclude_of_full hw]
  exact ⟨rfl, h.output.write_of_full hle _ _, h.beyond, h.database⟩

namespace Cut

theorem showPrompts (h : s.Cut capacity s') : s.showPrompts.Cut capacity s'.showPrompts := by
  obtain ⟨hsame, houtput, hb⟩ := h
  generalize s'.output = o' at hsame houtput
  subst hsame
  have hshown : s.showPrompts.output.Cut capacity { s with output := o' }.showPrompts.output ∧
      ¬ s.showPrompts.output.AnswerBeyond capacity := by
    simp only [Session.showPrompts]
    split
    · exact houtput.prompts hb _
    · exact ⟨houtput, hb⟩
  exact ⟨rfl, hshown.1, hshown.2⟩

theorem with_reader (h : s.Cut capacity s') (reader : Reader) :
    ({ s with reader } : Session).Cut capacity { s' with reader } := by
  refine ⟨?_, h.output, h.answers⟩
  rw [h.same]

theorem reader_eq (h : s.Cut capacity s') : s'.reader = s.reader := by
  rw [h.same]

theorem read (h : s.Cut capacity s') :
    s'.read.1 = s.read.1 ∧ s.read.2.Cut capacity s'.read.2 := by
  rw [Session.read, Session.read, h.reader_eq]
  exact ⟨rfl, (h.with_reader _).showPrompts⟩

theorem skip (h : s.Cut capacity s') : s.skip.Cut capacity s'.skip := by
  rw [Session.skip, Session.skip, h.reader_eq]
  exact (h.with_reader _).showPrompts

theorem execute (h : s.Cut capacity s') (statement : Statement) :
    (s'.execute statement).1 = (s.execute statement).1 ∧
        (s.execute statement).2.Cut capacity (s'.execute statement).2 ∨
      (s.execute statement).1.isOk ∧ (s'.execute statement).1 = .error outputFull ∧
        Failed capacity s.database (s.execute statement).2 (s'.execute statement).2 := by
  obtain ⟨hsame, houtput, hb⟩ := h
  generalize s'.output = o' at hsame houtput
  subst hsame
  cases he : (statement.effect s.dir s.database
      (s.folder.serve (statement.request s.dir s.database)).1).1 with
  | error fault =>
    have hfull := execute_of_effect_error he
    have hlimited := execute_of_effect_error (s := { s with output := o' }) he
    rw [hfull, hlimited]
    exact .inl ⟨rfl, rfl, houtput, hb⟩
  | ok effect =>
    have hwritten := houtput.write .answer effect.text
    rw [execute_of_fits he (by rw [Output.write_of_unlimited houtput.unlimited])]
    obtain ⟨hw, hnone⟩ | ⟨hw, hbeyond⟩ := houtput.answer_cases hb effect.text
    · rw [execute_of_fits (s := { s with output := o' }) he hw]
      exact .inl ⟨rfl, rfl, hwritten, hnone⟩
    · have hlimited := execute_of_full (s := { s with output := o' }) he hw
      have hdb := database_of_execute_error hlimited
      rw [hlimited]
      exact .inr ⟨rfl, rfl, hwritten, hbeyond, hdb⟩

theorem statement (h : s.Cut capacity s') :
    s'.statement.1 = s.statement.1 ∧ s.statement.2.Cut capacity s'.statement.2 ∨
      s.statement.1.isOk ∧ s'.statement.1 = .error outputFull ∧
        Failed capacity s.database s.statement.2 s'.statement.2 := by
  obtain ⟨hsame, hread⟩ := h.read
  cases hr : s.read.1 with
  | error fault =>
    rw [statement_of_read_error hr, statement_of_read_error (hsame.trans hr)]
    exact .inl ⟨rfl, hread⟩
  | ok statement =>
    rw [statement_of_read_ok hr, statement_of_read_ok (hsame.trans hr)]
    exact hread.execute statement

theorem conclude (h : s.Cut capacity s') (result : Except Fault Bool) :
    (conclude (result, s')).1 = (conclude (result, s)).1 ∧
        (conclude (result, s)).2.Cut capacity (conclude (result, s')).2 ∨
      (∃ fault, result = .error fault) ∧
        (conclude (result, s')).1 = some (.error outputFull) ∧
        Failed capacity s'.database (conclude (result, s)).2 (conclude (result, s')).2 := by
  match result with
  | .ok true => exact .inl ⟨rfl, h⟩
  | .ok false => exact .inl ⟨rfl, h⟩
  | .error fault =>
    obtain ⟨hsame, houtput, hb⟩ := h
    have hwritten := houtput.write .answer (report fault)
    rw [conclude_of_fits (s := s) (by rw [Output.write_of_unlimited houtput.unlimited])]
    obtain ⟨hw, hnone⟩ | ⟨hw, hbeyond⟩ := houtput.answer_cases hb (report fault)
    · rw [conclude_of_fits hw]
      refine .inl ⟨rfl, ?_⟩
      apply skip
      refine ⟨?_, hwritten, hnone⟩
      rw [hsame]
    · rw [conclude_of_full hw]
      refine .inr ⟨⟨fault, rfl⟩, rfl, ?_⟩
      -- the session without a limit goes on, and may ask for more while it passes the statement
      let reported := { s with output := (s.output.write .answer (report fault)).2 }
      have hroom : reported.Unlimited := hwritten.unlimited
      have hfailed : Failed capacity s'.database reported
          { s' with output := (s'.output.write .answer (report fault)).2 } :=
        ⟨hwritten, hbeyond, rfl⟩
      exact hfailed.mono (kept_unlimited.skip hroom) reported.suffix_skip

theorem round (h : s.Cut capacity s') :
    s'.round.1 = s.round.1 ∧ s.round.2.Cut capacity s'.round.2 ∨
      s'.round.1 = some (.error outputFull) ∧
        Failed capacity s.database s.round.2 s'.round.2 := by
  rw [Session.round, Session.round]
  obtain ⟨hsame, hcut⟩ | ⟨hok, hfull, hfailed⟩ := h.statement
  · have hs' : s'.statement = (s.statement.1, s'.statement.2) := Prod.ext hsame rfl
    rw [hs']
    obtain hsame | ⟨⟨fault, hf⟩, hend, hfailed⟩ := hcut.conclude s.statement.1
    · exact .inl hsame
    · rw [hf] at hs'
      obtain ⟨hkept, -⟩ := unchanged_of_error (.inl hs')
      refine .inr ⟨hend, hfailed.output, hfailed.beyond, ?_⟩
      rw [hfailed.database, hkept, h.same]
  · have hs' : s'.statement = (.error outputFull, s'.statement.2) := Prod.ext hfull rfl
    rw [hs']
    exact .inr (hfailed.conclude hok)

end Cut

theorem suffix_run (s : Session) : s.round.2.output.parts <:+ s.run.2.output.parts := by
  cases hr : s.round with
  | mk result after =>
    cases result with
    | none =>
      rw [run_of_round_none hr]
      exact (kept_written after.output.parts).run List.suffix_rfl
    | some result =>
      simp only [run_of_round hr, List.suffix_rfl]

theorem round_of_unlimited (h : s.Unlimited) {result : Except Fault Unit}
    (hr : s.round.1 = some result) : result = .ok () := by
  obtain ⟨hexit, hmore⟩ := s.round_of_reading
  by_cases he : Draft.empty.reading s.events = .ok .exit
  · rw [(hexit he).1] at hr
    cases hr
    rfl
  · rw [(hmore he).1 h] at hr
    cases hr

structure Interrupted (capacity : Nat) (s s' : Session) (n : Nat) (before last : Session) :
    Prop where
  full : s.rounds n = some before
  limited : s'.rounds n = some last
  cut : before.Cut capacity last
  round : last.round = (some (.error outputFull), s'.run.2)
  result : s'.run.1 = .error outputFull
  failed : Failed capacity before.database before.round.2 s'.run.2

theorem interrupted_of_round (h : s.Cut capacity s') (hend : s'.round.1 = some (.error outputFull))
    (hfailed : Failed capacity s.database s.round.2 s'.round.2) :
    Interrupted capacity s s' 0 s s' := by
  have hrun : s'.run = (.error outputFull, s'.round.2) := run_of_round (Prod.ext hend rfl)
  refine ⟨rfl, rfl, h, ?_, ?_, ?_⟩
  · rw [hrun]
    exact Prod.ext hend rfl
  · rw [hrun]
  · rw [hrun]
    exact hfailed

theorem Interrupted.succ {after after' before last : Session} {n : Nat}
    (h : Interrupted capacity after after' n before last) (hr : s.round = (none, after))
    (hr' : s'.round = (none, after')) : Interrupted capacity s s' (n + 1) before last := by
  have hrun := run_of_round_none hr'
  refine ⟨(rounds_succ hr).trans h.full, (rounds_succ hr').trans h.limited, h.cut, ?_, ?_, ?_⟩
  · rw [hrun]
    exact h.round
  · rw [hrun]
    exact h.result
  · rw [hrun]
    exact h.failed

theorem Cut.run (h : s.Cut capacity s') :
    s'.run.1 = .ok () ∧ s.run.2.Cut capacity s'.run.2 ∨
      ∃ n before last, Interrupted capacity s s' n before last := by
  -- by the rounds of the run without a limit, which is never the shorter one
  fun_induction Session.run s generalizing s' with
  | case1 s after hr ih =>
    obtain ⟨hsame, hafter⟩ | ⟨hend, hfailed⟩ := h.round
    · rw [hr] at hsame hafter
      have hr' : s'.round = (none, s'.round.2) := Prod.ext hsame rfl
      rw [run_of_round_none hr']
      obtain hdone | ⟨n, before, last, hrest⟩ := ih hafter
      · exact .inl hdone
      · exact .inr ⟨n + 1, before, last, hrest.succ hr hr'⟩
    · exact .inr ⟨0, s, s', interrupted_of_round h hend hfailed⟩
  | case2 s result after hr =>
    obtain ⟨hsame, hafter⟩ | ⟨hend, hfailed⟩ := h.round
    · rw [hr] at hsame hafter
      have hr' : s'.round = (some result, s'.round.2) := Prod.ext hsame rfl
      have hok := round_of_unlimited h.output.unlimited (congrArg Prod.fst hr)
      rw [run_of_round hr']
      exact .inl ⟨hok, hafter⟩
    · exact .inr ⟨0, s, s', interrupted_of_round h hend hfailed⟩

theorem cut_of_limited (s : Session) (capacity : Nat) :
    { s with output := .unlimited }.Cut capacity { s with output := .limited capacity } := by
  refine ⟨rfl, ⟨rfl, rfl, ?_⟩, ?_⟩
  · change ByteArray.empty = ByteArray.empty.extract 0 capacity
    rw [eq_comm, ← ByteArray.size_eq_zero_iff, ByteArray.size_extract]
    simp
  · simp [Output.AnswerBeyond, Output.kinds, Output.unlimited]

/-- A run on an output that stores at most `capacity` bytes stores as many of the bytes that it
writes without a limit. It fails if and only if one that belongs to no prompt is among those that are
missing; and then in the first round that writes such a byte, with the database from before the
statement of that round, which is also the one from before its report if that is what has failed. -/
theorem run_of_limited (s : Session) (capacity : Nat) :
    let full := { s with output := .unlimited }
    let limited := { s with output := .limited capacity }
    limited.run.2.output.bytes = full.run.2.output.bytes.extract 0 capacity ∧
      ((∃ fault, limited.run.1 = .error fault) ↔ full.run.2.output.AnswerBeyond capacity) ∧
      ∀ fault, limited.run.1 = .error fault → ∃ n before last,
        full.rounds n = some before ∧ limited.rounds n = some last ∧
        last.round = (some (.error fault), limited.run.2) ∧
        ¬ before.output.AnswerBeyond capacity ∧ before.round.2.output.AnswerBeyond capacity ∧
        limited.run.2.database = before.database ∧
        ((∃ fault, before.statement.1 = .error fault) →
          limited.run.2.database = before.statement.2.database) := by
  intro full limited
  have hcut : full.Cut capacity limited := s.cut_of_limited capacity
  obtain ⟨hok, hsame⟩ | ⟨n, before, last, h⟩ := hcut.run
  · refine ⟨hsame.output.bytes, ?_, ?_⟩
    · simp [hok, hsame.answers]
    · intro fault hf
      rw [hok] at hf
      cases hf
  · have hall : Failed capacity before.database full.run.2 limited.run.2 := by
      apply h.failed.mono
      · exact kept_unlimited.run rfl
      · rw [run_of_rounds h.full]
        exact before.suffix_run
    refine ⟨hall.output.bytes, ?_, ?_⟩
    · simp [h.result, hall.beyond]
    · intro fault hf
      rw [h.result] at hf
      cases hf
      refine ⟨n, before, last, h.full, h.limited, h.round, h.cut.answers, h.failed.beyond,
        hall.database, ?_⟩
      rintro ⟨fault, hf⟩
      obtain ⟨hkept, -⟩ := unchanged_of_error (.inl (Prod.ext hf rfl))
      rw [hall.database, hkept]

theorem run_of_limited_to_three_bytes :
    let s := new ["#"] "" .empty .unlimited false
    let limited := { s with output := .limited 3 }
    limited.run.1 = .error outputFull ∧ s.run.2.output.AnswerBeyond 3 ∧
      ∃ n before, s.rounds n = some before ∧ before.round.2.output.AnswerBeyond 3 ∧
        limited.run.2.database = before.database := by
  intro s limited
  have hev : limited.events = [.error (.lexical 1 "unrecognized character '#'"),
      .ok ⟨.endOfInput, 1⟩] := by
    refine (events_new ["#"] "" .empty .unlimited false).trans ?_
    simp +decide [Source.eventsFrom, Scan.line, Scan.text_cons, Scan.text_nil, Scan.lexeme,
      Comparison.read?, Lexeme.at]
  have hread : limited.read.1 = .error (.lexical 1 "unrecognized character '#'") := by
    rw [read_eq_reading, hev]
    rfl
  have hround : limited.round.1 = some (.error outputFull) := by
    rw [round, statement_of_read_error hread, conclude_of_full (by decide +kernel)]
  have herror : limited.run.1 = .error outputFull := by
    rw [run_of_round (Prod.ext hround rfl)]
  obtain ⟨-, hiff, hwhere⟩ := run_of_limited s 3
  obtain ⟨n, before, last, hn, -, -, -, hbeyond, hdb, -⟩ := hwhere _ herror
  exact ⟨herror, hiff.mp ⟨_, herror⟩, n, before, hn, hbeyond, hdb⟩

end Session

end TableShell
