import TableShell.Proofs.SentenceBeginnings
import TableShell.Proofs.TokenBuffer

namespace TableShell

open Grammar

def Grammar.Begins (kinds : List TokenKind) : Prop :=
  ∃ later statement, Sentence (kinds ++ later) statement

namespace Draft

variable {draft : Draft} {kind : TokenKind} {kinds : List TokenKind}

/-- Tokens that lead from a draft to where a semicolon completes it. -/
def completion : Draft → List TokenKind
  | empty => [.keyword .exit]
  | create => [.keyword .table, .identifier "t", .leftParen, .identifier "a", .rightParen]
  | createTable => [.identifier "t", .leftParen, .identifier "a", .rightParen]
  | createNamed _ => [.leftParen, .identifier "a", .rightParen]
  | createColumn .. => [.identifier "a", .rightParen]
  | createAfterColumn .. => [.rightParen]
  | createAs _ => [.keyword .select, .identifier "a", .keyword .from, .identifier "t"]
  | insert => [.keyword .into, .identifier "t", .keyword .values, .leftParen, .literal "",
      .rightParen]
  | insertInto => [.identifier "t", .keyword .values, .leftParen, .literal "", .rightParen]
  | insertNamed _ => [.keyword .values, .leftParen, .literal "", .rightParen]
  | insertRow .. => [.leftParen, .literal "", .rightParen]
  | insertCell .. => [.literal "", .rightParen]
  | insertAfterCell .. => [.rightParen]
  | named _ | selectTable .. => [.identifier "t"]
  | selectColumn .. => [.identifier "a", .keyword .from, .identifier "t"]
  | selectAfterColumn .. => [.keyword .from, .identifier "t"]
  | condition .. => [.identifier "a", .comparison .equal, .identifier "a"]
  | conditionColumn .. => [.comparison .equal, .identifier "a"]
  | conditionOperand .. => [.identifier "a"]
  | insertAfterRow .. | selectAfterTable .. | afterCondition .. | complete _ => []

theorem reach_completion (draft : Draft) :
    ∃ draft' statement, draft.reach draft.completion = some draft' ∧
      draft'.step .semicolon = .finish statement := by
  cases draft <;> exact ⟨_, _, rfl, rfl⟩

theorem begins_of_reach (h : empty.reach kinds = some draft) : Begins kinds := by
  obtain ⟨draft', statement, hreach, hlast⟩ := draft.reach_completion
  obtain ⟨-, hs⟩ | ⟨hk, -⟩ := sentence_of_reach ((reach_append h _).trans hreach) hlast
  · rw [List.append_assoc] at hs
    exact ⟨_, statement, hs⟩
  · cases hk

theorem not_begins_of_refuse (h : empty.reach kinds = some draft)
    (hs : draft.step kind = .refuse) : ¬Begins (kinds ++ [kind]) := by
  rintro ⟨later, statement, hsentence⟩
  obtain ⟨body, draft', hkinds, hreach, hlast⟩ := finishes_of_sentence hsentence
  obtain rfl | ⟨before, last, rfl⟩ := List.eq_nil_or_concat later
  · -- the token would be the semicolon that completes the draft
    rw [List.append_nil] at hkinds
    obtain ⟨rfl, hk⟩ := List.append_inj' hkinds rfl
    obtain rfl : kind = .semicolon := List.singleton_inj.mp hk
    rw [h] at hreach
    cases hreach
    rw [hs] at hlast
    cases hlast
  · rw [List.concat_eq_append, ← List.append_assoc] at hkinds
    obtain ⟨rfl, -⟩ := List.append_inj' hkinds rfl
    rw [List.append_assoc, reach_append h] at hreach
    obtain ⟨next, hstep, -⟩ := reach_cons_eq_some hreach
    rw [hs] at hstep
    cases hstep

end Draft

namespace Reader

variable {draft draft' : Draft} {t t' : Tokens} {fault : Fault} {r : Reader}

theorem passed_of_shift (h : advance draft t = (.inl draft', t')) :
    ∃ token, t.events = .ok token :: t'.events ∧ t'.passed = token :: t.passed ∧
      draft.step token.kind = .shift draft' := by
  obtain ⟨token, he, hstep, -, hend⟩ := events_of_shift h
  refine ⟨token, he, ?_, hstep⟩
  rw [advance] at h
  split at h
  · cases h
  · rename_i found t₁ hp
    obtain ⟨later, hfound⟩ := Tokens.exists_of_peek_ok hp
    obtain rfl : found = token := by
      rw [he] at hfound
      cases hfound
      rfl
    split at h <;> cases h
    rw [Tokens.passed_of_peek_ok hp, if_neg hend]

theorem events_of_fault (h : advance draft t = (.inr (.error fault), t')) :
    t'.passed = t.passed ∧
      (t.events = .error fault :: t'.events ∨
        ∃ token later, t.events = .ok token :: later ∧ t'.events = t.events ∧
          draft.step token.kind = .refuse ∧ fault = draft.refusal token) := by
  have hpassed := t.passed_peek
  rw [advance] at h
  split at h <;> rename_i hp <;> rw [hp] at hpassed
  · cases h
    exact ⟨hpassed, .inl (Tokens.events_of_peek_error hp)⟩
  · obtain ⟨later, he⟩ := Tokens.exists_of_peek_ok hp
    split at h <;> cases h
    exact ⟨hpassed, .inr ⟨_, later, he, Tokens.events_of_peek_ok hp, ‹_›, rfl⟩⟩

theorem events_of_completeDraft_error (h : (completeDraft draft t).1 = .error fault) :
    ∃ (tokens : List Token) (next : Event) (later : List Event) (reached : Draft),
      t.events = tokens.map .ok ++ next :: later ∧
      (completeDraft draft t).2.passed = tokens.reverse ++ t.passed ∧
      draft.reach (tokens.map Token.kind) = some reached ∧
      (next = .error fault ∧ (completeDraft draft t).2.events = later ∨
        ∃ token, next = .ok token ∧ (completeDraft draft t).2.events = next :: later ∧
          reached.step token.kind = .refuse ∧ fault = reached.refusal token) := by
  fun_induction completeDraft draft t with
  | case1 draft t draft' t' ha ih =>
    obtain ⟨token, he, hpassed, hstep⟩ := passed_of_shift ha
    obtain ⟨tokens, next, later, reached, he', hpassed', hreach, hstop⟩ := ih h
    refine ⟨token :: tokens, next, later, reached, ?_, ?_, ?_, hstop⟩
    · rw [he, he']
      rfl
    · rw [hpassed', hpassed, List.reverse_cons, List.append_assoc, List.singleton_append]
    · exact (Draft.reach_cons hstep _).trans hreach
  | case2 draft t answer t' ha =>
    obtain rfl : answer = .error fault := h
    obtain ⟨hpassed, he | ⟨token, later, he, hstays, hstep, hfault⟩⟩ := events_of_fault ha
    · exact ⟨[], _, _, draft, he, hpassed, rfl, .inl ⟨rfl, rfl⟩⟩
    · exact ⟨[], _, later, draft, he, hpassed, rfl, .inr ⟨token, rfl, hstays.trans he, hstep, hfault⟩⟩

theorem refusal_of_reach {tokens : List Token}
    (h : Draft.empty.reach (tokens.map Token.kind) = some draft) (token : Token) :
    if tokens = [] then draft.refusal token = .unknownCommand token.kind.describe
    else ∃ expected, draft.refusal token =
      .unexpectedToken expected token.kind.describe token.line := by
  split
  · rename_i hnil
    rw [hnil] at h
    cases h
    rfl
  · rename_i hne
    cases draft with
    | empty => exact absurd (List.map_eq_nil_iff.mp (Draft.eq_nil_of_reach_empty h)) hne
    | _ => exact ⟨_, rfl⟩

/-- A statement that cannot be read is given up after tokens that begin a sentence, none of which is
a semicolon. Either a fault comes next, and this is the one that is reported; or a token comes next
that no sentence has there. The fault names this token, with its line unless it is the first, and
the token stays; the end of input is such a token, too. -/
theorem refused_token (h : r.statement.1 = .error fault) :
    let before := r.tokens.drain.1
    let after := r.statement.2.tokens.drain.1
    let consumed := r.statement.2.tokens.passed.reverse
    Begins (consumed.map Token.kind) ∧ .semicolon ∉ consumed.map Token.kind ∧
      ∃ next later, before = consumed.map .ok ++ next :: later ∧
        match next with
        | .error met => fault = met ∧ after = later
        | .ok token =>
          ¬Begins (consumed.map Token.kind ++ [token.kind]) ∧ after = .ok token :: later ∧
            if consumed = [] then fault = .unknownCommand token.kind.describe
            else ∃ expected, fault = .unexpectedToken expected token.kind.describe token.line := by
  intro before after consumed
  have hread : (completeDraft .empty r.tokens.flush).1 = .error fault := h
  obtain ⟨tokens, next, later, draft, he, hpassed, hreach, hstop⟩ :=
    events_of_completeDraft_error hread
  obtain rfl : consumed = tokens := by
    change r.statement.2.tokens.passed.reverse = tokens
    rw [statement, hpassed]
    simp [Tokens.flush]
  have hbefore : before = consumed.map .ok ++ next :: later := r.tokens.drain_eq_events.trans he
  have hafter : after = (completeDraft .empty r.tokens.flush).2.events :=
    r.statement.2.tokens.drain_eq_events
  refine ⟨Draft.begins_of_reach hreach, Draft.semicolon_not_mem_of_reach hreach, next, later,
    hbefore, ?_⟩
  obtain ⟨rfl, hlater⟩ | ⟨token, rfl, hstays, hrefuse, rfl⟩ := hstop
  · exact ⟨rfl, hafter.trans hlater⟩
  · exact ⟨Draft.not_begins_of_refuse hreach hrefuse, hafter.trans hstays,
      refusal_of_reach hreach token⟩

theorem refused_token_between_columns :
    let ahead : List Token := [⟨.keyword .select, 1⟩, ⟨.identifier "a", 1⟩, ⟨.keyword .as, 2⟩,
      ⟨.semicolon, 2⟩]
    let r : Reader := ⟨⟨.ofLines [], ahead, []⟩, true⟩
    r.statement.1 = .error (.unexpectedToken "'from'" "'as'" 2) ∧
      r.statement.2.tokens.drain.1.head? = some (.ok ⟨.keyword .as, 2⟩) ∧
      Begins [.keyword .select, .identifier "a"] ∧
      ¬Begins [.keyword .select, .identifier "a", .keyword .as] := by
  intro ahead r
  let past (count : Nat) : Tokens := ⟨.ofLines [], ahead.drop count, (ahead.take count).reverse⟩
  have hselect : advance .empty r.tokens.flush = (.inl (.selectColumn .answer []), past 1) := rfl
  have hcolumn : advance (.selectColumn .answer []) (past 1) =
      (.inl (.selectAfterColumn .answer ["a"]), past 2) := rfl
  have hread : completeDraft .empty r.tokens.flush =
      (.error (.unexpectedToken "'from'" "'as'" 2), past 2) := by
    rw [completeDraft_of_shift hselect, completeDraft_of_shift hcolumn]
    exact completeDraft_of_answer rfl
  have hs : r.statement = (.error (.unexpectedToken "'from'" "'as'" 2), ⟨past 2, false⟩) := by
    rw [statement, hread]
    rfl
  have h := congrArg Prod.fst hs
  obtain ⟨hbegins, -, next, later, hbefore, hstop⟩ := refused_token h
  rw [hs] at hbegins hbefore hstop ⊢
  have hevents : r.tokens.drain.1 = ahead.map .ok ++ [.ok ⟨.endOfInput, 0⟩] :=
    r.tokens.drain_eq_events
  rw [hevents] at hbefore
  cases hbefore
  exact ⟨rfl, by rw [hstop.2.1]; rfl, hbegins, hstop.1⟩

end Reader

end TableShell
