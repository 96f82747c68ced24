import TableShell.Proofs.NamesInSentences
import TableShell.Proofs.SentenceBeginnings

namespace TableShell

open Grammar

variable {events : List Event} {statement : Statement}

theorem reading_sentence (h : Ended events) {tokens : List Token}
    (hl : leading events = tokens.map .ok) (hs : Sentence (tokens.map Token.kind) statement) :
    Draft.empty.reading events = .ok statement ∧ leading events ++ beyond events = events := by
  obtain ⟨body, draft, hkinds, hreach, hlast⟩ := Draft.finishes_of_sentence hs
  obtain ⟨before, closing, rfl, rfl, hclosing⟩ := List.map_eq_append_iff.mp hkinds
  obtain ⟨last, rfl, hk⟩ := List.map_eq_singleton_iff.mp hclosing
  constructor
  · rw [← Draft.reading_leading h, hl, List.map_append, Draft.reading_of_reach hreach]
    simp [Draft.reading, hk, hlast]
  · refine h.leading_append_beyond ?_ hk
    simp [hl]

theorem sentence_of_reading (h : Ended events)
    (hr : Draft.empty.reading events = .ok statement) :
    (∃ tokens : List Token, leading events = tokens.map .ok ∧
      Sentence (tokens.map Token.kind) statement) ∨
    statement = .exit ∧ ∃ token : Token, token.kind = .endOfInput ∧ events = [.ok token] := by
  obtain ⟨tokens, last, later, draft, rfl, hreach, hlast⟩ := Draft.exists_reach_of_reading hr
  obtain ⟨hk, hs⟩ | ⟨hk, hnil, rfl⟩ := Draft.sentence_of_reach hreach hlast
  · refine .inl ⟨tokens ++ [last], ?_, by simpa using hs⟩
    exact leading_of_closed (Draft.semicolon_not_mem_of_reach hreach) hk later
  · obtain rfl := List.map_eq_nil_iff.mp hnil
    refine .inr ⟨rfl, last, hk, ?_⟩
    cases h with
    | last => rfl
    | pass hne => exact absurd hk hne

namespace Reader

variable {r : Reader}

theorem events_of_statement_ok (h : r.statement.1 = .ok statement) :
    r.statement.2.tokens.events = beyond r.tokens.events := by
  have hevents := r.events_statement
  rwa [r.complete_statement, h] at hevents

theorem statement_of_sentence {tokens : List Token}
    (hl : leading r.tokens.events = tokens.map .ok)
    (hs : Sentence (tokens.map Token.kind) statement) :
    r.statement.1 = .ok statement ∧
      leading r.tokens.events ++ r.statement.2.tokens.events = r.tokens.events := by
  obtain ⟨hread, hall⟩ := reading_sentence r.tokens.ended_events hl hs
  have hok := r.statement_eq_reading.trans hread
  exact ⟨hok, by rw [events_of_statement_ok hok, hall]⟩

theorem statement_of_end {token : Token} (hk : token.kind = .endOfInput)
    (he : r.tokens.events = [.ok token]) :
    r.statement.1 = .ok .exit ∧ r.statement.2.tokens.events = r.tokens.events ∧
      leading r.tokens.events ++ r.statement.2.tokens.events ≠ r.tokens.events := by
  have hok : r.statement.1 = .ok .exit := by
    rw [r.statement_eq_reading, he, Draft.reading_end hk]
  have hstays : r.statement.2.tokens.events = r.tokens.events := by
    rw [events_of_statement_ok hok, he]
    simp [beyond, hk]
  refine ⟨hok, hstays, ?_⟩
  rw [hstays, he]
  simp [leading, isSemicolon, hk]

theorem cases_of_statement (h : r.statement.1 = .ok statement) :
    (∃ tokens : List Token, leading r.tokens.events = tokens.map .ok ∧
      Sentence (tokens.map Token.kind) statement) ∨
    statement = .exit ∧ ∃ token : Token, token.kind = .endOfInput ∧ r.tokens.events = [.ok token] :=
  sentence_of_reading r.tokens.ended_events (r.statement_eq_reading.symm.trans h)

theorem statement_passed_iff :
    r.statement.1 = .ok statement ∧
        leading r.tokens.events ++ r.statement.2.tokens.events = r.tokens.events ↔
      ∃ tokens : List Token, leading r.tokens.events = tokens.map .ok ∧
        Sentence (tokens.map Token.kind) statement := by
  constructor
  · rintro ⟨hok, hall⟩
    obtain hsentence | ⟨-, token, hk, he⟩ := cases_of_statement hok
    · exact hsentence
    · exact absurd hall (statement_of_end hk he).2.2
  · rintro ⟨tokens, hl, hs⟩
    exact statement_of_sentence hl hs

theorem statement_not_passed_iff :
    r.statement.1 = .ok statement ∧
        leading r.tokens.events ++ r.statement.2.tokens.events ≠ r.tokens.events ↔
      statement = .exit ∧ r.statement.2.tokens.events = r.tokens.events ∧
        ∃ token : Token, token.kind = .endOfInput ∧ r.tokens.events = [.ok token] := by
  constructor
  · rintro ⟨hok, hne⟩
    obtain ⟨tokens, hl, hs⟩ | ⟨rfl, token, hk, he⟩ := cases_of_statement hok
    · exact absurd (statement_of_sentence hl hs).2 hne
    · exact ⟨rfl, (statement_of_end hk he).2.1, token, hk, he⟩
  · rintro ⟨rfl, -, token, hk, he⟩
    obtain ⟨hok, -, hne⟩ := statement_of_end hk he
    exact ⟨hok, hne⟩

/-- A statement is read, and the tokens up to the first semicolon are passed, exactly when these are
all tokens and a sentence of that statement. The only other statement that is read is the exit at
the end of input, which passes nothing. A sentence has one meaning; and if words of the same roles
stand in the place of its words, with names spelled like keywords or not, then the tokens that spell
them are a sentence that says just these words. -/
theorem reads_sentences (r : Reader) :
    let before := r.tokens.drain.1
    let after := r.statement.2.tokens.drain.1
    (∀ statement, r.statement.1 = .ok statement ∧ leading before ++ after = before ↔
      ∃ tokens : List Token, leading before = tokens.map .ok ∧
        Sentence (tokens.map Token.kind) statement) ∧
    (∀ statement, r.statement.1 = .ok statement ∧ leading before ++ after ≠ before ↔
      statement = .exit ∧ after = before ∧
        ∃ token : Token, token.kind = .endOfInput ∧ before = [.ok token]) ∧
    (∀ kinds statement statement', Sentence kinds statement → Sentence kinds statement' →
      statement = statement') ∧
    ∀ kinds statement, Sentence kinds statement → Word.Spelled statement.words kinds ∧
      ∀ words kinds', Word.SameRoles words statement.words → Word.Spelled words kinds' →
        ∃ statement' : Statement, statement'.words = words ∧ Sentence kinds' statement' := by
  intro before after
  have hbefore : before = r.tokens.events := r.tokens.drain_eq_events
  have hafter : after = r.statement.2.tokens.events := r.statement.2.tokens.drain_eq_events
  rw [hbefore, hafter]
  refine ⟨fun statement => statement_passed_iff, fun statement => statement_not_passed_iff,
    fun kinds statement statement' => statement_unique, fun kinds statement h => ⟨?_, ?_⟩⟩
  · exact (Word.sentence_iff.mp h).2
  · exact fun words kinds' => Word.sentence_of_roles h

/-- Keywords are names where a name may stand. -/
example :
    let kinds : List TokenKind := [.keyword .select, .keyword .from, .comma, .identifier "a",
      .keyword .from, .keyword .where, .keyword .where, .keyword .and, .comparison .less,
      .keyword .where, .keyword .and, .identifier "a", .comparison .less, .literal " b ",
      .semicolon]
    Draft.empty.reading (kinds.map fun kind => .ok ⟨kind, 1⟩) =
      .ok (.select ⟨["from", "a"], ["where"],
        [⟨"and", .less, .column "where"⟩, ⟨"a", .less, .literal "b"⟩]⟩) := by
  rfl

end Reader

end TableShell
