import TableShell.Proofs.Prompts
import TableShell.Proofs.ScannedText
import TableShell.Proofs.TokenBuffer

namespace TableShell

namespace Source

def followedBy (s : Source) (later : List String) : Source :=
  { s with unread := s.unread ++ later }

variable {s : Source}

theorem fillFrom_unread (s : Source) (unread lines : List String) :
    { s with unread }.fillFrom lines = s.fillFrom lines := by
  induction lines generalizing s with
  | nil => rfl
  | cons text rest ih =>
    rw [fillFrom, fillFrom]
    split <;> rename_i h
    · exact (if_pos h).symm
    · exact (ih (s.enter text)).trans (if_neg h).symm

/-- Filling that finds an event does not look beyond the lines that it has read. -/
theorem fillFrom_append {lines : List String} (h : (s.fillFrom lines).ended = false)
    (later : List String) :
    s.fillFrom (lines ++ later) = (s.fillFrom lines).followedBy later := by
  induction lines generalizing s with
  | nil =>
    by_cases hr : s.ready
    · cases later <;> simp [fillFrom, hr, followedBy]
    · simp [fillFrom, hr, close] at h
  | cons text rest ih =>
    by_cases hr : s.ready
    · simp [fillFrom, hr, followedBy]
    · rw [fillFrom, if_neg hr] at h
      rw [List.cons_append, fillFrom, if_neg hr, fillFrom, if_neg hr]
      exact ih h

theorem not_mem_of_ended {lines : List String} (h : s.ended = false)
    (he : (s.fillFrom lines).ended = true) (token : Token) :
    .ok token ∉ (s.fillFrom lines).upcoming := by
  induction lines generalizing s with
  | nil =>
    by_cases hr : s.ready
    · simp [fillFrom, hr, h] at he
    · cases hc : s.inComment <;> simp [fillFrom, hr, close, upcoming, hc, Lexeme.at]
  | cons text rest ih =>
    by_cases hr : s.ready
    · simp [fillFrom, hr, h] at he
    · rw [fillFrom, if_neg hr] at he ⊢
      exact ih (s := s.enter text) h he

/-- While a token is to come, the lines after it are not looked at. -/
theorem fill_followedBy {token : Token} (h : .ok token ∈ s.upcoming) (later : List String) :
    (s.followedBy later).fill = s.fill.followedBy later := by
  cases hr : s.ready with
  | true =>
    have hready : (s.followedBy later).ready = true := hr
    rw [fill_of_ready hready, fill_of_ready hr]
  | false =>
    have hopen : s.ended = false := by
      cases hs : s.ended <;> simp_all [ready]
    have hended : s.fill.ended = false := by
      rw [← upcoming_fill] at h
      exact Bool.eq_false_iff.mpr fun he => not_mem_of_ended hopen he token h
    exact (fillFrom_unread s _ _).trans (fillFrom_append hended later)

theorem take_followedBy (s : Source) (later : List String) :
    (s.followedBy later).take = (s.take.1, s.take.2.followedBy later) := by
  obtain ⟨unread, line, pending, inComment, inStatement, ended, prompts⟩ := s
  match pending with
  | [] => rfl
  | .ok kind :: rest => rfl
  | .error e :: rest => rfl

end Source

namespace Tokens

variable {t t' : Tokens}

def followedBy (t : Tokens) (later : List String) : Tokens :=
  { t with source := t.source.followedBy later }

def SemicolonAhead (t : Tokens) : Prop := 0 < t.events.countP isSemicolon

theorem peek_followedBy (h : t.SemicolonAhead) (later : List String) :
    (t.followedBy later).peek = (t.peek.1, t.peek.2.followedBy later) := by
  cases hl : t.lookahead with
  | cons token rest =>
    have hl' : (t.followedBy later).lookahead = token :: rest := hl
    rw [peek, hl', peek, hl]
  | nil =>
    obtain ⟨event, hm, hs⟩ := List.countP_pos_iff.mp h
    have hm := subset_upToEnd _ hm
    rw [hl, List.map_nil, List.nil_append] at hm
    obtain ⟨token, rfl⟩ : ∃ token, event = .ok token := by
      cases event with
      | ok token => exact ⟨token, rfl⟩
      | error fault => cases hs
    have hup : .ok token ∈ t.source.upcoming := by
      obtain hm | hm := List.mem_append.mp hm
      · exact hm
      · cases List.mem_singleton.mp hm
        cases hs
    have hl' : (t.followedBy later).lookahead = [] := hl
    have hfill : (t.followedBy later).source.fill = t.source.fill.followedBy later :=
      Source.fill_followedBy hup later
    rw [peek_of_nil hl', peek_of_nil hl, hfill, Source.take_followedBy]
    rfl

theorem advance_followedBy (t : Tokens) (later : List String) :
    (t.followedBy later).advance = t.advance.followedBy later := by
  obtain ⟨source, lookahead, passed⟩ := t
  cases lookahead with
  | nil => rfl
  | cons token rest =>
    by_cases hk : token.kind = .endOfInput <;> simp [followedBy, advance, hk]

end Tokens

namespace Reader

variable {t t' : Tokens}

theorem shift_followedBy (h : t.SemicolonAhead) (draft : Draft) (later : List String) :
    advance draft (t.followedBy later) =
      ((advance draft t).1, (advance draft t).2.followedBy later) := by
  rw [advance, advance, Tokens.peek_followedBy h]
  cases t.peek with
  | mk event peeked =>
    cases event with
    | error fault => rfl
    | ok token =>
      dsimp only
      split
      · rw [Tokens.advance_followedBy]
      · rw [Tokens.advance_followedBy]
      · rfl

theorem semicolonAhead_of_shift {draft draft' : Draft} (h : t.SemicolonAhead)
    (ha : advance draft t = (.inl draft', t')) : t'.SemicolonAhead := by
  obtain ⟨token, he, -, hs, -⟩ := events_of_shift ha
  rw [Tokens.SemicolonAhead, he, List.countP_cons_of_neg (by simpa [isSemicolon] using hs)] at h
  exact h

theorem completeDraft_followedBy (h : t.SemicolonAhead) (draft : Draft) (later : List String) :
    completeDraft draft (t.followedBy later) =
      ((completeDraft draft t).1, (completeDraft draft t).2.followedBy later) := by
  fun_induction completeDraft draft t with
  | case1 draft t draft' t' ha ih =>
    have hshift := shift_followedBy h draft later
    rw [ha] at hshift
    rw [completeDraft_of_shift hshift]
    exact ih (semicolonAhead_of_shift h ha)
  | case2 draft t answer t' ha =>
    have hshift := shift_followedBy h draft later
    rw [ha] at hshift
    exact completeDraft_of_answer hshift

theorem semicolonAhead_of_error {draft : Draft} (h : t.SemicolonAhead)
    (he : (completeDraft draft t).1.isOk = false) : (completeDraft draft t).2.SemicolonAhead := by
  fun_induction completeDraft draft t with
  | case1 draft t draft' t' ha ih => exact ih (semicolonAhead_of_shift h ha) he
  | case2 draft t answer t' ha =>
    rw [Tokens.SemicolonAhead] at h ⊢
    rw [advance] at ha
    split at ha
    · rename_i hp
      cases ha
      rw [Tokens.events_of_peek_error hp] at h
      exact h
    · rename_i hp
      split at ha <;> cases ha
      · cases he
      · rw [Tokens.events_of_peek_ok hp]
        exact h

theorem skipOne_followedBy (h : t.SemicolonAhead) (later : List String) :
    skipOne (t.followedBy later) = ((skipOne t).1, (skipOne t).2.followedBy later) := by
  rw [skipOne, skipOne, Tokens.next, Tokens.next, Tokens.peek_followedBy h]
  cases t.peek with
  | mk event peeked =>
    cases event with
    | error fault => rfl
    | ok token =>
      dsimp only
      rw [Tokens.advance_followedBy]

theorem semicolonAhead_of_open (h : t.SemicolonAhead) (hs : skipOne t = (false, t')) :
    t'.SemicolonAhead := by
  rw [Tokens.SemicolonAhead] at h ⊢
  rw [skipOne] at hs
  cases hn : t.next with
  | mk event after =>
    rw [hn] at hs
    cases event with
    | error fault =>
      cases hs
      rw [Tokens.events_of_peek_error (Tokens.peek_of_next_error hn)] at h
      exact h
    | ok token =>
      simp only [Prod.mk.injEq] at hs
      obtain ⟨hk, rfl⟩ := hs
      obtain ⟨peeked, hp, rfl⟩ := Tokens.peek_of_next_ok hn
      have hpassed := Tokens.events_of_passed hp
      simp only [Bool.or_eq_false_iff, decide_eq_false_iff_not] at hk
      rw [if_neg hk.2] at hpassed
      rw [hpassed, List.countP_cons_of_neg (by simpa [isSemicolon] using hk.1)] at h
      exact h

theorem skipTokens_followedBy (h : t.SemicolonAhead) (later : List String) :
    skipTokens (t.followedBy later) = (skipTokens t).followedBy later := by
  fun_induction skipTokens t with
  | case1 t t' hs =>
    have hone := skipOne_followedBy h later
    rw [hs] at hone
    exact skipTokens_of_closed hone
  | case2 t t' hs ih =>
    have hone := skipOne_followedBy h later
    rw [hs] at hone
    rw [skipTokens_of_open hone]
    exact ih (semicolonAhead_of_open h hs)

def followedBy (r : Reader) (later : List String) : Reader :=
  { r with tokens := r.tokens.followedBy later }

variable {r : Reader}

theorem statement_followedBy (h : r.tokens.SemicolonAhead) (later : List String) :
    (r.followedBy later).statement = (r.statement.1, r.statement.2.followedBy later) := by
  have hread := completeDraft_followedBy (t := r.tokens.flush) h .empty later
  have hflush : (r.followedBy later).tokens.flush = r.tokens.flush.followedBy later := rfl
  rw [statement, hflush, hread]
  rfl

theorem skip_followedBy (h : r.complete = false → r.tokens.SemicolonAhead) (later : List String) :
    (r.followedBy later).skip = r.skip.followedBy later := by
  cases hc : r.complete with
  | true =>
    have hc' : (r.followedBy later).complete = true := hc
    rw [skip, if_pos hc', skip, if_pos hc]
  | false =>
    have hc' : ¬ (r.followedBy later).complete = true := by simp [followedBy, hc]
    have htokens := skipTokens_followedBy (h hc) later
    rw [skip, if_neg hc', skip, if_neg (by simp [hc])]
    exact congrArg (Reader.mk · true) htokens

end Reader

namespace Session

variable {s : Session}

/-- Reads and carries out one statement, and passes the rest of it if it fails. Nothing is
reported. -/
def attempt (s : Session) : Except Fault Bool × Session :=
  let tried := s.statement
  (tried.1, if tried.1.isOk then tried.2 else tried.2.skip)

def attempts : Nat → Session → List (Except Fault Bool) × Session
  | 0, s => ([], s)
  | n + 1, s =>
    let later := attempts n s.attempt.2
    (s.attempt.1 :: later.1, later.2)

theorem events_attempt (s : Session) : s.attempt.2.events = beyond s.events := by
  rw [← s.events_passed, attempt]
  dsimp only
  split <;> rfl

theorem events_attempts (n : Nat) (s : Session) :
    (attempts n s).2.events = remaining n s.events := by
  induction n generalizing s with
  | zero => exact s.ended_events.remaining_zero.symm
  | succ n ih => exact (ih _).trans (by rw [events_attempt, remaining_succ s.ended_events])

theorem Kept.attempts {P : Session → Prop} {Q : Statement → Prop} (k : Kept P Q) (n : Nat)
    (h : P s) : P (Session.attempts n s).2 := by
  induction n generalizing s with
  | zero => exact h
  | succ n ih =>
    apply ih
    rw [attempt]
    dsimp only
    split
    · exact k.statement h
    · exact k.skip (k.statement h)

def followedBy (s : Session) (later : List String) : Session :=
  { s with reader := s.reader.followedBy later }

theorem read_followedBy (h : s.reader.tokens.SemicolonAhead) (later : List String) :
    (s.followedBy later).read = (s.read.1, s.read.2.followedBy later) := by
  have hread : (s.followedBy later).reader.statement =
      (s.reader.statement.1, s.reader.statement.2.followedBy later) :=
    Reader.statement_followedBy h later
  rw [read, hread]
  rfl

theorem execute_followedBy (s : Session) (statement : Statement) (later : List String) :
    (s.followedBy later).execute statement =
      ((s.execute statement).1, (s.execute statement).2.followedBy later) := by
  simp only [execute, followedBy]
  split
  · rfl
  · split <;> rfl

theorem statement_followedBy (h : s.reader.tokens.SemicolonAhead) (later : List String) :
    (s.followedBy later).statement = (s.statement.1, s.statement.2.followedBy later) := by
  rw [statement, read_followedBy h, statement]
  cases s.read with
  | mk answer after =>
    cases answer with
    | error fault => rfl
    | ok statement => exact execute_followedBy after statement later

theorem skip_followedBy (h : s.reader.complete = false → s.reader.tokens.SemicolonAhead)
    (later : List String) : (s.followedBy later).skip = s.skip.followedBy later := by
  have hskip : (s.followedBy later).reader.skip = s.reader.skip.followedBy later :=
    Reader.skip_followedBy h later
  rw [skip, hskip]
  rfl

theorem attempt_followedBy (h : s.reader.tokens.SemicolonAhead) (later : List String) :
    (s.followedBy later).attempt = (s.attempt.1, s.attempt.2.followedBy later) := by
  have hahead : s.statement.2.reader.complete = false →
      s.statement.2.reader.tokens.SemicolonAhead := by
    rw [reader_statement]
    exact fun hc => Reader.semicolonAhead_of_error (t := s.reader.tokens.flush) h hc
  rw [attempt, statement_followedBy h, attempt]
  dsimp only
  split
  · rfl
  · rw [skip_followedBy hahead]

/-- What so many statements do is the same whatever lines follow those that close them. -/
theorem attempts_followedBy {n : Nat} (h : n ≤ s.events.countP isSemicolon)
    (later : List String) :
    attempts n (s.followedBy later) = ((attempts n s).1, (attempts n s).2.followedBy later) := by
  induction n generalizing s with
  | zero => rfl
  | succ n ih =>
    have hahead : s.reader.tokens.SemicolonAhead := by
      rw [Tokens.SemicolonAhead, ← events_eq]
      exact Nat.lt_of_lt_of_le (Nat.succ_pos n) h
    have hbeyond : n ≤ s.attempt.2.events.countP isSemicolon := by
      rw [events_attempt, s.ended_events.countP_beyond]
      exact Nat.le_sub_of_add_le h
    rw [attempts, attempt_followedBy hahead]
    dsimp only
    rw [ih hbeyond]
    rfl

end Session

end TableShell
