import TableShell.Proofs.Segments
import TableShell.Statement.Reader

namespace TableShell

namespace Draft

variable {draft draft' : Draft} {kind : TokenKind} {statement : Statement}

theorem step_semicolon (draft draft' : Draft) : step .semicolon draft ≠ .shift draft' := by
  cases draft <;>
    simp [step, start, on, onSome, orComma, finishOn, TokenKind.name?, TokenKind.literal?,
      TokenKind.comparison?]

theorem step_ne_shift_empty (kind : TokenKind) (draft : Draft) :
    step kind draft ≠ .shift empty := by
  cases draft <;> simp only [step, start, on, onSome, orComma, finishOn] <;> split <;> grind

theorem closes_of_finish (h : step kind draft = .finish statement) :
    kind = .semicolon ∨ kind = .endOfInput ∧ draft = .empty := by
  cases draft <;> simp only [step, start, on, onSome, orComma, finishOn] at h <;> grind

theorem on_eq_shift {expected : TokenKind} (h : on kind expected draft = .shift draft') :
    kind = expected ∧ draft = draft' := by
  rw [on] at h
  split at h <;> cases h
  exact ⟨‹_›, rfl⟩

theorem onSome_eq_shift {α : Type} {value : Option α} {after : α → Draft}
    (h : onSome value after = .shift draft') : ∃ a, value = some a ∧ after a = draft' := by
  cases value with
  | none => cases h
  | some a =>
    cases h
    exact ⟨a, rfl, rfl⟩

theorem orComma_eq_shift {otherwise : Step} (h : orComma kind draft otherwise = .shift draft') :
    kind = .comma ∧ draft = draft' ∨ otherwise = .shift draft' := by
  rw [orComma] at h
  split at h
  · cases h
    exact .inl ⟨‹_›, rfl⟩
  · exact .inr h

theorem finishOn_ne_shift : finishOn kind statement ≠ .shift draft' := by
  rw [finishOn]
  split <;> simp

/-- What a draft becomes on a list of events. No event at all is like the end of input. -/
def reading (draft : Draft) : List Event → Except Fault Statement
  | [] => .error (draft.refusal ⟨.endOfInput, 0⟩)
  | .error fault :: _ => .error fault
  | .ok token :: rest =>
    match draft.step token.kind with
    | .shift draft => draft.reading rest
    | .finish statement => .ok statement
    | .refuse => .error (draft.refusal token)

theorem reading_end {token : Token} (h : token.kind = .endOfInput) :
    empty.reading [.ok token] = .ok .exit := by
  simp [reading, step, start, h]

variable {events : List Event}

/-- What comes after the first segment does not matter. -/
theorem reading_leading (h : Ended events) (draft : Draft) :
    draft.reading (leading events) = draft.reading events := by
  induction h generalizing draft with
  | last h => simp [leading, isSemicolon, h]
  | @pass token rest h later ih =>
    by_cases hs : token.kind = .semicolon
    · simp only [leading, isSemicolon, hs, decide_true, if_true, reading]
      cases hstep : draft.step .semicolon with
      | shift draft' => exact absurd hstep (step_semicolon draft draft')
      | finish statement => rfl
      | refuse => rfl
    · simp only [leading, isSemicolon, hs, decide_false, Bool.false_eq_true, if_false, reading]
      cases draft.step token.kind with
      | shift draft' => exact ih draft'
      | finish statement => rfl
      | refuse => rfl
  | fault later ih => rfl

theorem not_mem_leading_of_reading_eq_ok (h : Ended events) {statement : Statement}
    (hr : draft.reading events = .ok statement) (fault : Fault) :
    .error fault ∉ leading events := by
  induction h generalizing draft with
  | last h => simp [leading, isSemicolon, h]
  | @pass token rest h later ih =>
    by_cases hs : token.kind = .semicolon
    · simp [leading, isSemicolon, hs]
    · rw [reading] at hr
      cases hstep : draft.step token.kind with
      | shift draft' =>
        rw [hstep] at hr
        simpa [leading, isSemicolon, hs] using ih hr
      | finish statement =>
        obtain hk | ⟨hk, -⟩ := closes_of_finish hstep
        · exact absurd hk hs
        · exact absurd hk h
      | refuse =>
        rw [hstep] at hr
        cases hr
  | fault later ih => cases hr

theorem mem_semicolon_of_reading_eq_ok (h : Ended events) {statement : Statement}
    (hr : draft.reading events = .ok statement) :
    (∃ token, .ok token ∈ leading events ∧ token.kind = .semicolon) ∨
      draft = .empty ∧ (leading events).length = 1 := by
  induction h generalizing draft with
  | @last token h =>
    rw [reading] at hr
    cases hstep : draft.step token.kind with
    | shift draft' =>
      rw [h] at hstep
      exact absurd hstep (step_endOfInput draft draft')
    | finish found =>
      rw [hstep] at hr
      cases hr
      obtain hk | ⟨-, hd⟩ := closes_of_finish hstep
      · rw [h] at hk
        cases hk
      · exact .inr ⟨hd, by simp [leading, isSemicolon, h]⟩
    | refuse =>
      rw [hstep] at hr
      cases hr
  | @pass token rest h later ih =>
    by_cases hs : token.kind = .semicolon
    · exact .inl ⟨token, by simp [leading, isSemicolon, hs], hs⟩
    · rw [reading] at hr
      cases hstep : draft.step token.kind with
      | shift draft' =>
        rw [hstep] at hr
        obtain ⟨closing, hm, hc⟩ | ⟨rfl, -⟩ := ih hr
        · refine .inl ⟨closing, ?_, hc⟩
          simp [leading, isSemicolon, hs, hm]
        · exact absurd hstep (step_ne_shift_empty token.kind draft)
      | finish found =>
        obtain hk | ⟨hk, -⟩ := closes_of_finish hstep
        · exact absurd hk hs
        · exact absurd hk h
      | refuse =>
        rw [hstep] at hr
        cases hr
  | fault later ih => cases hr

end Draft

namespace Reader

variable {draft draft' : Draft} {t t' : Tokens} {answer : Except Fault Statement}

theorem completeDraft_of_shift (h : advance draft t = (.inl draft', t')) :
    completeDraft draft t = completeDraft draft' t' := by
  rw [completeDraft]
  split <;> rename_i ha <;> rw [h] at ha <;> cases ha
  rfl

theorem completeDraft_of_answer (h : advance draft t = (.inr answer, t')) :
    completeDraft draft t = (answer, t') := by
  rw [completeDraft]
  split <;> rename_i ha <;> rw [h] at ha <;> cases ha
  rfl

theorem skipTokens_of_closed (h : skipOne t = (true, t')) : skipTokens t = t' := by
  rw [skipTokens]
  split <;> rename_i hs <;> rw [h] at hs <;> cases hs
  rfl

theorem skipTokens_of_open (h : skipOne t = (false, t')) : skipTokens t = skipTokens t' := by
  rw [skipTokens]
  split <;> rename_i hs <;> rw [h] at hs <;> cases hs
  rfl

theorem events_of_shift (h : advance draft t = (.inl draft', t')) :
    ∃ token, t.events = .ok token :: t'.events ∧ draft.step token.kind = .shift draft' ∧
      token.kind ≠ .semicolon ∧ token.kind ≠ .endOfInput := by
  rw [advance] at h
  split at h
  · cases h
  · rename_i token t₁ hp
    split at h <;> cases h
    rename_i hstep
    have hend : token.kind ≠ .endOfInput := by
      intro hk
      rw [hk] at hstep
      exact Draft.step_endOfInput draft draft' hstep
    have hpassed := Tokens.events_of_passed hp
    rw [if_neg hend] at hpassed
    refine ⟨token, hpassed, hstep, ?_, hend⟩
    intro hk
    rw [hk] at hstep
    exact Draft.step_semicolon draft draft' hstep

/-- An answer is the draft's reading of all events to come. After a statement they go on where it
ends, and after a fault they still lead to the same place. -/
theorem events_of_answer (h : advance draft t = (.inr answer, t')) :
    draft.reading t.events = answer ∧
      (if answer.isOk then t'.events else beyond t'.events) = beyond t.events := by
  rw [advance] at h
  split at h
  · rename_i fault t₁ hp
    cases h
    rw [Tokens.events_of_peek_error hp]
    exact ⟨rfl, rfl⟩
  · rename_i token t₁ hp
    obtain ⟨later, he⟩ := Tokens.exists_of_peek_ok hp
    split at h <;> rename_i hstep <;> cases h
    · refine ⟨by rw [he, Draft.reading, hstep], ?_⟩
      have hpassed := Tokens.events_of_passed hp
      by_cases hk : token.kind = .endOfInput
      · rw [if_pos hk] at hpassed
        rw [hpassed.1, hpassed.2]
        simp [beyond, hk, Except.isOk, Except.toBool]
      · rw [if_neg hk] at hpassed
        have hs : token.kind = .semicolon := by
          obtain hs | ⟨he, -⟩ := Draft.closes_of_finish hstep
          · exact hs
          · exact absurd he hk
        rw [hpassed]
        simp [beyond, hs, Except.isOk, Except.toBool]
    · refine ⟨by rw [he, Draft.reading, hstep], ?_⟩
      rw [Tokens.events_of_peek_ok hp]
      rfl

theorem completeDraft_eq_reading (draft : Draft) (t : Tokens) :
    (completeDraft draft t).1 = draft.reading t.events := by
  fun_induction completeDraft draft t with
  | case1 draft t draft' t' h ih =>
    obtain ⟨token, he, hstep, -⟩ := events_of_shift h
    rw [ih, he, Draft.reading, hstep]
  | case2 draft t answer t' h => exact (events_of_answer h).1.symm

theorem events_completeDraft (draft : Draft) (t : Tokens) :
    (if (completeDraft draft t).1.isOk then (completeDraft draft t).2.events
      else beyond (completeDraft draft t).2.events) = beyond t.events := by
  fun_induction completeDraft draft t with
  | case1 draft t draft' t' h ih =>
    obtain ⟨token, he, -, hs, hend⟩ := events_of_shift h
    rw [ih, he]
    simp [beyond, hs, hend]
  | case2 draft t answer t' h => exact (events_of_answer h).2

theorem events_skipOne {closed : Bool} (h : skipOne t = (closed, t')) :
    (if closed then t'.events else beyond t'.events) = beyond t.events := by
  rw [skipOne] at h
  cases hn : t.next with
  | mk event after =>
    rw [hn] at h
    cases event with
    | error fault =>
      cases h
      rw [Tokens.events_of_peek_error (Tokens.peek_of_next_error hn)]
      rfl
    | ok token =>
      cases h
      obtain ⟨peeked, hp, rfl⟩ := Tokens.peek_of_next_ok hn
      have hpassed := Tokens.events_of_passed hp
      by_cases hk : token.kind = .endOfInput
      · rw [if_pos hk] at hpassed
        simp [hpassed.1, hpassed.2, beyond, hk]
      · rw [if_neg hk] at hpassed
        rw [hpassed]
        by_cases hs : token.kind = .semicolon <;> simp [beyond, hs, hk]

theorem events_skipTokens (t : Tokens) : (skipTokens t).events = beyond t.events := by
  fun_induction skipTokens t with
  | case1 t t' h => exact events_skipOne h
  | case2 t t' h ih => exact ih.trans (events_skipOne h)

theorem statement_eq_reading (r : Reader) :
    r.statement.1 = Draft.empty.reading r.tokens.events :=
  completeDraft_eq_reading .empty r.tokens.flush

theorem events_skip (r : Reader) :
    r.skip.tokens.events = if r.complete then r.tokens.events else beyond r.tokens.events := by
  rw [skip]
  split
  · rfl
  · exact events_skipTokens r.tokens

theorem events_statement (r : Reader) :
    (if r.statement.2.complete then r.statement.2.tokens.events
      else beyond r.statement.2.tokens.events) = beyond r.tokens.events :=
  events_completeDraft .empty r.tokens.flush

theorem subset_advance (draft : Draft) (t : Tokens) : (advance draft t).2.events ⊆ t.events := by
  rw [advance]
  split
  · rename_i hp
    rw [Tokens.events_of_peek_error hp]
    exact List.subset_cons_self _ _
  · rename_i token t₁ hp
    have hpassed := t₁.subset_advance
    rw [Tokens.events_of_peek_ok hp] at hpassed
    split
    · exact hpassed
    · exact hpassed
    · rw [Tokens.events_of_peek_ok hp]
      exact List.Subset.refl _

theorem subset_statement (r : Reader) : r.statement.2.tokens.events ⊆ r.tokens.events := by
  change (completeDraft .empty r.tokens.flush).2.events ⊆ r.tokens.flush.events
  generalize Draft.empty = draft
  generalize r.tokens.flush = t
  fun_induction completeDraft draft t with
  | case1 draft t draft' t' h ih =>
    have hstep := subset_advance draft t
    rw [h] at hstep
    exact List.Subset.trans ih hstep
  | case2 draft t answer t' h =>
    have hstep := subset_advance draft t
    rwa [h] at hstep

theorem subset_skip (r : Reader) : r.skip.tokens.events ⊆ r.tokens.events := by
  rw [events_skip]
  split
  · exact List.Subset.refl _
  · exact subset_beyond _

end Reader

structure Tokens.Steady (P : Tokens → Prop) : Prop where
  peek : ∀ {t}, P t → P t.peek.2
  advance : ∀ {t}, P t → P t.advance
  flush : ∀ {t}, P t → P t.flush

namespace Tokens.Steady

variable {P : Tokens → Prop} {t : Tokens} {r : Reader}

theorem shift (k : Steady P) (draft : Draft) (h : P t) : P (Reader.advance draft t).2 := by
  have hpeek := k.peek h
  rw [Reader.advance]
  split <;> rename_i hp <;> rw [hp] at hpeek
  · exact hpeek
  · split
    · exact k.advance hpeek
    · exact k.advance hpeek
    · exact hpeek

theorem completeDraft (k : Steady P) (draft : Draft) (h : P t) :
    P (Reader.completeDraft draft t).2 := by
  fun_induction Reader.completeDraft draft t with
  | case1 draft t draft' t' ha ih =>
    have hshift := k.shift draft h
    rw [ha] at hshift
    exact ih hshift
  | case2 draft t answer t' ha =>
    have hshift := k.shift draft h
    rwa [ha] at hshift

theorem skipOne (k : Steady P) (h : P t) : P (Reader.skipOne t).2 := by
  have hpeek := k.peek h
  rw [Reader.skipOne, Tokens.next]
  cases hp : t.peek with
  | mk event after =>
    rw [hp] at hpeek
    cases event with
    | error fault => exact hpeek
    | ok token => exact k.advance hpeek

theorem skipTokens (k : Steady P) (h : P t) : P (Reader.skipTokens t) := by
  fun_induction Reader.skipTokens t with
  | case1 t t' hs =>
    have hskip := k.skipOne h
    rwa [hs] at hskip
  | case2 t t' hs ih =>
    have hskip := k.skipOne h
    rw [hs] at hskip
    exact ih hskip

theorem statement (k : Steady P) (h : P r.tokens) : P r.statement.2.tokens :=
  k.completeDraft .empty (k.flush h)

theorem skip (k : Steady P) (h : P r.tokens) : P r.skip.tokens := by
  rw [Reader.skip]
  split
  · exact h
  · exact k.skipTokens h

end Tokens.Steady

end TableShell
