import TableShell.Rank
import TableShell.Token.Scan

namespace TableShell

inductive Prompt
  | statement
  | continuation
  deriving DecidableEq, Repr

def Prompt.text : Prompt → String
  | statement => "> "
  | continuation => "... "

/-- A token, or the fault that stands in its place. -/
abbrev Event := Except Fault Token

def Lexeme.at (line : Nat) : Lexeme → Event
  | .ok kind => .ok ⟨kind, line⟩
  | .error e => .error (.lexical line e.message)

structure Source where
  unread : List String
  /-- The number of lines read. -/
  line : Nat
  /-- The rest of the last line read. -/
  pending : List Lexeme
  inComment : Bool
  /-- A token has been taken since the last semicolon. -/
  inStatement : Bool
  ended : Bool
  /-- The prompts asked for, newest first. -/
  prompts : List Prompt

namespace Source

def ofLines (lines : List String) : Source := ⟨lines, 0, [], false, false, false, []⟩

def prompt (s : Source) : Prompt := if s.inStatement then .continuation else .statement

def ready (s : Source) : Bool := s.ended || !s.pending.isEmpty

def enter (s : Source) (text : String) : Source :=
  let found := Scan.line s.inComment text.toList
  { s with
    line := s.line + 1
    pending := found.1
    inComment := found.2
    prompts := s.prompt :: s.prompts }

/-- No line is left. A block comment that is open now is never closed. -/
def close (s : Source) : Source :=
  { s with
    pending := if s.inComment then [.error .unendedComment] else []
    inComment := false
    ended := true
    prompts := s.prompt :: s.prompts }

def fillFrom (s : Source) : List String → Source
  | [] => if s.ready then { s with unread := [] } else { s.close with unread := [] }
  | text :: rest =>
    if s.ready then { s with unread := text :: rest } else (s.enter text).fillFrom rest

def fill (s : Source) : Source := s.fillFrom s.unread

/-- The next event of a source that is ready. At the end there is always one more end. -/
def take (s : Source) : Event × Source :=
  match s.pending with
  | [] => (.ok ⟨.endOfInput, s.line⟩, s)
  | .ok kind :: rest =>
    (.ok ⟨kind, s.line⟩, { s with pending := rest, inStatement := kind ≠ .semicolon })
  | .error e :: rest => (.error (.lexical s.line e.message), { s with pending := rest })

def eventsFrom (line : Nat) (inComment : Bool) : List String → List Event
  | [] => if inComment then [Lexeme.at line (.error .unendedComment)] else []
  | text :: rest =>
    let found := Scan.line inComment text.toList
    found.1.map (Lexeme.at (line + 1)) ++ eventsFrom (line + 1) found.2 rest

def upcoming (s : Source) : List Event :=
  s.pending.map (Lexeme.at s.line) ++
    if s.ended then [] else eventsFrom s.line s.inComment s.unread

@[simp]
theorem upcoming_ofLines (lines : List String) :
    (ofLines lines).upcoming = eventsFrom 0 false lines := by
  simp [upcoming, ofLines]

theorem upcoming_fillFrom (s : Source) (lines : List String) :
    (s.fillFrom lines).upcoming = { s with unread := lines }.upcoming := by
  induction lines generalizing s with
  | nil =>
    by_cases h : s.ready
    · simp [fillFrom, h]
    · have hp : s.pending = [] ∧ s.ended = false := by simpa [ready, and_comm] using h
      cases hc : s.inComment <;> simp [fillFrom, h, upcoming, close, eventsFrom, hp, hc]
  | cons text rest ih =>
    by_cases h : s.ready
    · simp [fillFrom, h]
    · have hp : s.pending = [] ∧ s.ended = false := by simpa [ready, and_comm] using h
      rw [fillFrom, if_neg h, ih]
      simp [upcoming, enter, eventsFrom, hp]

theorem upcoming_fill (s : Source) : s.fill.upcoming = s.upcoming :=
  upcoming_fillFrom s s.unread

theorem ready_fillFrom (s : Source) (lines : List String) : (s.fillFrom lines).ready = true := by
  induction lines generalizing s with
  | nil => by_cases h : s.ready <;> simp_all [fillFrom, close, ready]
  | cons text rest ih =>
    by_cases h : s.ready
    · simp_all [fillFrom, ready]
    · rw [fillFrom, if_neg h]
      exact ih _

theorem ready_fill (s : Source) : s.fill.ready = true := ready_fillFrom s s.unread

/-- The lines that may still be asked for, the end of input counted as one. -/
def linesLeft (s : Source) : Nat := s.unread.length + if s.ended then 0 else 1

theorem fill_of_ready {s : Source} (h : s.ready = true) : s.fill = s := by
  cases s with
  | mk unread =>
    cases unread <;> simp [fill, fillFrom, h]

theorem linesLeft_fillFrom_le (s : Source) (lines : List String) :
    (s.fillFrom lines).linesLeft ≤ { s with unread := lines }.linesLeft := by
  induction lines generalizing s with
  | nil => by_cases h : s.ready <;> simp [fillFrom, h, linesLeft, close]
  | cons text rest ih =>
    by_cases h : s.ready
    · simp [fillFrom, h]
    · rw [fillFrom, if_neg h]
      refine Nat.le_trans (ih _) ?_
      exact Nat.add_le_add_right (Nat.le_succ _) _

theorem linesLeft_fill_lt {s : Source} (h : s.ready = false) : s.fill.linesLeft < s.linesLeft := by
  have he : s.ended = false := by
    cases hs : s.ended <;> simp_all [ready]
  cases hu : s.unread with
  | nil => simp [fill, hu, fillFrom, h, linesLeft, close, he]
  | cons text rest =>
    have hle := linesLeft_fillFrom_le (s.enter text) rest
    rw [fill, hu, fillFrom, if_neg (by simp [h])]
    refine Nat.lt_of_le_of_lt hle ?_
    simp [linesLeft, enter, hu]

def rank (s : Source) : Rank := ⟨s.linesLeft, s.pending.length⟩

theorem rank_fill_le (s : Source) : s.fill.rank ≤ s.rank := by
  cases h : s.ready with
  | true => exact Rank.le_of_eq (by rw [fill_of_ready h])
  | false => exact .inl (linesLeft_fill_lt h)

theorem linesLeft_take (s : Source) : s.take.2.linesLeft = s.linesLeft := by
  unfold take
  split <;> rfl

theorem pending_take (s : Source) : s.take.2.pending = s.pending.tail := by
  unfold take
  split <;> rename_i h <;> simp [h]

theorem upcoming_take {s : Source} (h : s.ready = true) :
    s.upcoming = match s.pending with
      | [] => []
      | _ :: _ => s.take.1 :: s.take.2.upcoming := by
  cases hp : s.pending with
  | nil =>
    have he : s.ended = true := by simpa [ready, hp] using h
    simp [upcoming, hp, he]
  | cons x rest => cases x <;> simp [upcoming, take, hp, Lexeme.at]

end Source

end TableShell
