import TableShell.Token.Source

namespace TableShell

structure Tokens where
  source : Source
  /-- Tokens read but not passed. Once the end of input is read it stays here. -/
  lookahead : List Token
  /-- Tokens passed since the last `flush`, newest first. -/
  passed : List Token

namespace Tokens

def ofLines (lines : List String) : Tokens := ⟨.ofLines lines, [], []⟩

def line (t : Tokens) : Nat := t.source.line

def ready (t : Tokens) : Bool := !t.lookahead.isEmpty || t.source.ready

/-- The next token, which stays the next one. A fault is reported once. -/
def peek (t : Tokens) : Event × Tokens :=
  match t.lookahead with
  | token :: _ => (.ok token, t)
  | [] =>
    let taken := t.source.fill.take
    match taken.1 with
    | .ok token => (.ok token, { t with source := taken.2, lookahead := [token] })
    | .error fault => (.error fault, { t with source := taken.2 })

/-- Passes the token that has been peeked. The end of input is never passed. -/
def advance (t : Tokens) : Tokens :=
  match t.lookahead with
  | [] => t
  | token :: rest =>
    if token.kind = .endOfInput then t
    else { t with lookahead := rest, passed := token :: t.passed }

def next (t : Tokens) : Event × Tokens :=
  match t.peek with
  | (.ok token, t) => (.ok token, t.advance)
  | (.error fault, t) => (.error fault, t)

def nextIf (kind : TokenKind) (t : Tokens) : Except Fault Bool × Tokens :=
  match t.peek with
  | (.ok token, t) => if token.kind = kind then (.ok true, t.advance) else (.ok false, t)
  | (.error fault, t) => (.error fault, t)

/-- Passes the next token if `extract` finds something in it; any other token is a fault and stays
the next one. -/
def accept {α : Type} (extract : Token → Option α) (expected : String) (t : Tokens) :
    Except Fault α × Tokens :=
  match t.peek with
  | (.ok token, t) =>
    match extract token with
    | some value => (.ok value, t.advance)
    | none => (.error (.unexpectedToken expected token.kind.describe token.line), t)
  | (.error fault, t) => (.error fault, t)

def expect (kind : TokenKind) : Tokens → Event × Tokens :=
  accept (fun token => if token.kind = kind then some token else none) kind.describe

def expectName : Tokens → Except Fault String × Tokens :=
  accept (fun token => token.kind.name?) "name"

def expectLiteral : Tokens → Except Fault String × Tokens :=
  accept (fun token => token.kind.literal?) "literal"

def expectComparison : Tokens → Except Fault Comparison × Tokens :=
  accept (fun token => token.kind.comparison?) "relation"

def flush (t : Tokens) : Tokens := { t with passed := [] }

def rewind (t : Tokens) : Tokens :=
  { t with lookahead := t.passed.reverse ++ t.lookahead, passed := [] }

def collectPrompts (t : Tokens) : List Prompt × Tokens :=
  (t.source.prompts.reverse, { t with source := { t.source with prompts := [] } })

/-- The tokens and faults read but not passed, the end of input aside. -/
def waiting (t : Tokens) : Nat :=
  t.lookahead.countP (fun token => token.kind ≠ .endOfInput) + t.source.pending.length

def rank (t : Tokens) : Rank := ⟨t.source.linesLeft, t.waiting⟩

theorem head?_peek {t t' : Tokens} {token : Token} (h : t.peek = (.ok token, t')) :
    t'.lookahead.head? = some token := by
  unfold peek at h
  split at h
  · rename_i hl
    cases h
    simp [hl]
  · dsimp only at h
    split at h <;> cases h
    simp

theorem rank_of_lookahead {t : Tokens} (h : t.lookahead = []) : t.rank = t.source.rank := by
  simp [rank, waiting, h, Source.rank]

theorem rank_peek_le (t : Tokens) : t.peek.2.rank ≤ t.rank := by
  unfold peek
  split
  · exact Rank.le_of_eq rfl
  · rename_i hl
    rw [rank_of_lookahead hl]
    refine Rank.le_trans ?_ (Source.rank_fill_le t.source)
    cases hp : t.source.fill.pending with
    | nil => simp [Source.take, hp, Rank.le_iff, rank, Source.rank, waiting]
    | cons x rest =>
      dsimp only
      split
      · simp only [Rank.le_iff, rank, Source.rank, waiting, Source.linesLeft_take,
          Source.pending_take, hp, List.countP_cons, List.countP_nil, List.tail_cons,
          List.length_cons, true_and]
        split <;> omega
      · simp only [Rank.le_iff, rank, Source.rank, waiting, hl, Source.linesLeft_take,
          Source.pending_take, hp, List.countP_nil, List.tail_cons, List.length_cons, true_and]
        omega

theorem rank_peek_lt {t t' : Tokens} {fault : Fault} (h : t.peek = (.error fault, t')) :
    t'.rank < t.rank := by
  unfold peek at h
  split at h
  · cases h
  · rename_i hl
    rw [rank_of_lookahead hl]
    refine Rank.lt_of_lt_of_le ?_ (Source.rank_fill_le t.source)
    cases hp : t.source.fill.pending with
    | nil => simp [Source.take, hp] at h
    | cons x rest =>
      dsimp only at h
      split at h <;> cases h
      simp [Rank.lt_iff, rank, Source.rank, waiting, hl, Source.linesLeft_take,
        Source.pending_take, hp]

theorem rank_advance_lt {t : Tokens} {token : Token} (h : t.lookahead.head? = some token)
    (hk : token.kind ≠ .endOfInput) : t.advance.rank < t.rank := by
  cases hl : t.lookahead with
  | nil => simp [hl] at h
  | cons head rest =>
    have he : head = token := by simpa [hl] using h
    subst he
    simp [advance, hl, hk, Rank.lt_iff, rank, waiting]

theorem rank_advance_le (t : Tokens) : t.advance.rank ≤ t.rank := by
  cases hl : t.lookahead with
  | nil => exact Rank.le_of_eq (by simp [advance, hl])
  | cons token rest =>
    by_cases hk : token.kind = .endOfInput
    · exact Rank.le_of_eq (by simp [advance, hl, hk])
    · exact Rank.le_of_lt (rank_advance_lt (by rw [hl]; rfl) hk)

theorem rank_next_le (t : Tokens) : t.next.2.rank ≤ t.rank := by
  have hle := t.rank_peek_le
  unfold next
  split <;> rename_i hp <;> rw [hp] at hle
  · exact Rank.le_trans (rank_advance_le _) hle
  · exact hle

theorem rank_next_lt {t t' : Tokens} {event : Event} (h : t.next = (event, t'))
    (hk : ∀ token, event = .ok token → token.kind ≠ .endOfInput) : t'.rank < t.rank := by
  unfold next at h
  split at h
  · rename_i token t₁ hp
    cases h
    have hle := rank_peek_le t
    rw [hp] at hle
    exact Rank.lt_of_lt_of_le (rank_advance_lt (head?_peek hp) (hk token rfl)) hle
  · rename_i hp
    cases h
    exact rank_peek_lt hp

def drain (t : Tokens) : List Event × Tokens :=
  match _h : t.next with
  | (.ok token, rest) =>
    if _hk : token.kind = .endOfInput then ([.ok token], rest)
    else
      let later := rest.drain
      (.ok token :: later.1, later.2)
  | (.error fault, rest) =>
    let later := rest.drain
    (.error fault :: later.1, later.2)
termination_by t.rank
decreasing_by
  · exact rank_next_lt _h (fun _ he => by cases he; exact _hk)
  · exact rank_next_lt _h (fun _ he => nomatch he)

end Tokens

end TableShell
