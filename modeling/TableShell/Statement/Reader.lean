import TableShell.Statement.Draft
import TableShell.Tokens

namespace TableShell

structure Reader where
  tokens : Tokens
  /-- No statement has been started, or the last one was read to its end. -/
  complete : Bool

namespace Reader

def ofLines (lines : List String) : Reader := ⟨.ofLines lines, true⟩

def advance (draft : Draft) (tokens : Tokens) :
    (Draft ⊕ Except Fault Statement) × Tokens :=
  match tokens.peek with
  | (.error fault, tokens) => (.inr (.error fault), tokens)
  | (.ok token, tokens) =>
    match draft.step token.kind with
    | .shift draft => (.inl draft, tokens.advance)
    | .finish statement => (.inr (.ok statement), tokens.advance)
    | .refuse => (.inr (.error (draft.refusal token)), tokens)

theorem rank_advance_lt {draft draft' : Draft} {tokens tokens' : Tokens}
    (h : advance draft tokens = (.inl draft', tokens')) : tokens'.rank < tokens.rank := by
  unfold advance at h
  split at h
  · cases h
  · rename_i token t hp
    have hle := tokens.rank_peek_le
    rw [hp] at hle
    split at h <;> cases h
    rename_i hs
    refine Rank.lt_of_lt_of_le (Tokens.rank_advance_lt (Tokens.head?_peek hp) ?_) hle
    intro hk
    rw [hk] at hs
    exact Draft.step_endOfInput draft _ hs

def completeDraft (draft : Draft) (tokens : Tokens) : Except Fault Statement × Tokens :=
  match _h : advance draft tokens with
  | (.inl draft, tokens) => completeDraft draft tokens
  | (.inr answer, tokens) => (answer, tokens)
termination_by tokens.rank
decreasing_by exact rank_advance_lt _h

/-- The next statement. At the end of input it is `exit`. -/
def statement (r : Reader) : Except Fault Statement × Reader :=
  let read := completeDraft .empty r.tokens.flush
  (read.1, ⟨read.2, read.1.isOk⟩)

def skipOne (tokens : Tokens) : Bool × Tokens :=
  match tokens.next with
  | (.ok token, tokens) => (token.kind = .semicolon || token.kind = .endOfInput, tokens)
  | (.error _, tokens) => (false, tokens)

theorem rank_skipOne_lt {tokens tokens' : Tokens} (h : skipOne tokens = (false, tokens')) :
    tokens'.rank < tokens.rank := by
  unfold skipOne at h
  split at h
  · rename_i token t hn
    simp only [Prod.mk.injEq] at h
    obtain ⟨hk, rfl⟩ := h
    refine Tokens.rank_next_lt hn ?_
    intro token' he
    cases he
    intro hend
    simp [hend] at hk
  · rename_i hn
    cases h
    exact Tokens.rank_next_lt hn (fun _ he => nomatch he)

/-- The tokens after the next semicolon. Faults on the way are not reported. -/
def skipTokens (tokens : Tokens) : Tokens :=
  match _h : skipOne tokens with
  | (true, tokens) => tokens
  | (false, tokens) => skipTokens tokens
termination_by tokens.rank
decreasing_by exact rank_skipOne_lt _h

def skip (r : Reader) : Reader :=
  if r.complete then r else ⟨skipTokens r.tokens, true⟩

theorem rank_advance_le (draft : Draft) (tokens : Tokens) :
    (advance draft tokens).2.rank ≤ tokens.rank := by
  have hle := tokens.rank_peek_le
  unfold advance
  split
  · rename_i hp
    simpa [hp] using hle
  · rename_i token t hp
    rw [hp] at hle
    split
    · exact Rank.le_trans t.rank_advance_le hle
    · exact Rank.le_trans t.rank_advance_le hle
    · exact hle

theorem rank_completeDraft_le (draft : Draft) (tokens : Tokens) :
    (completeDraft draft tokens).2.rank ≤ tokens.rank := by
  fun_induction completeDraft draft tokens with
  | case1 draft tokens draft' tokens' h ih =>
    exact Rank.le_trans ih (Rank.le_of_lt (rank_advance_lt h))
  | case2 draft tokens answer tokens' h =>
    have hle := rank_advance_le draft tokens
    rwa [h] at hle

theorem rank_skipOne_le (tokens : Tokens) :
    (skipOne tokens).2.rank ≤ tokens.rank := by
  have hn := tokens.rank_next_le
  unfold skipOne
  split <;> rename_i h <;> simpa [h] using hn

theorem rank_skipTokens_le (tokens : Tokens) :
    (skipTokens tokens).rank ≤ tokens.rank := by
  fun_induction skipTokens tokens with
  | case1 tokens tokens' h =>
    have hle := rank_skipOne_le tokens
    rwa [h] at hle
  | case2 tokens tokens' h ih =>
    exact Rank.le_trans ih (Rank.le_of_lt (rank_skipOne_lt h))

/-- Skipping passes the next token even if it is the last of its statement. -/
theorem rank_skipTokens_lt {tokens : Tokens} {token : Token}
    (h : tokens.lookahead.head? = some token) (hk : token.kind ≠ .endOfInput) :
    (skipTokens tokens).rank < tokens.rank := by
  have hone : (skipOne tokens).2.rank < tokens.rank := by
    cases hl : tokens.lookahead with
    | nil => simp [hl] at h
    | cons head rest =>
      have hp : tokens.peek = (.ok head, tokens) := by simp [Tokens.peek, hl]
      have ht : head = token := by simpa [hl] using h
      subst ht
      simpa [skipOne, Tokens.next, hp] using Tokens.rank_advance_lt h hk
  rw [skipTokens]
  split <;> rename_i hs <;> rw [hs] at hone
  · exact hone
  · exact Rank.lt_of_le_of_lt (rank_skipTokens_le _) hone

theorem rank_statement_lt {r : Reader} {statement : Statement}
    (h : r.statement.1 = .ok statement) (hs : statement ≠ .exit) :
    r.statement.2.tokens.rank < r.tokens.rank := by
  change (completeDraft .empty r.tokens.flush).2.rank < r.tokens.flush.rank
  change (completeDraft .empty r.tokens.flush).1 = .ok statement at h
  rw [completeDraft] at h ⊢
  split at h <;> rename_i ha
  · exact Rank.lt_of_le_of_lt (rank_completeDraft_le _ _) (rank_advance_lt ha)
  · subst h
    exfalso
    unfold advance at ha
    split at ha
    · cases ha
    · rename_i token t hp
      split at ha <;> cases ha
      rename_i hstep
      exact hs (Draft.eq_exit_of_start hstep)

/-- The tokens on which a statement has failed: some have been passed, or the first is in the
way. -/
def Stuck (before after : Tokens) : Prop :=
  after.rank < before.rank ∨
    after.rank ≤ before.rank ∧
      ∃ token, after.lookahead.head? = some token ∧ token.kind ≠ .endOfInput

theorem Stuck.rank_skipTokens_lt {before after : Tokens} (h : Stuck before after) :
    (skipTokens after).rank < before.rank := by
  rcases h with hlt | ⟨hle, token, ht, hk⟩
  · exact Rank.lt_of_le_of_lt (rank_skipTokens_le after) hlt
  · exact Rank.lt_of_lt_of_le (Reader.rank_skipTokens_lt ht hk) hle

theorem stuck_statement {r : Reader} {fault : Fault} (h : r.statement.1 = .error fault) :
    Stuck r.tokens r.statement.2.tokens := by
  change Stuck r.tokens.flush (completeDraft .empty r.tokens.flush).2
  change (completeDraft .empty r.tokens.flush).1 = .error fault at h
  rw [completeDraft] at h ⊢
  split at h <;> rename_i ha
  · exact .inl (Rank.lt_of_le_of_lt (rank_completeDraft_le _ _) (rank_advance_lt ha))
  · subst h
    unfold advance at ha
    split at ha
    · rename_i hp
      cases ha
      exact .inl (Tokens.rank_peek_lt hp)
    · rename_i token t hp
      have hle := r.tokens.flush.rank_peek_le
      rw [hp] at hle
      split at ha <;> cases ha
      rename_i hstep
      refine .inr ⟨hle, token, Tokens.head?_peek hp, ?_⟩
      intro hk
      simp [hk, Draft.step, Draft.start] at hstep

theorem complete_statement (r : Reader) : r.statement.2.complete = r.statement.1.isOk := rfl

end Reader

end TableShell
