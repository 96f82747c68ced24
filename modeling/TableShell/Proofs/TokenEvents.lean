import TableShell.Tokens

namespace TableShell

namespace Source

def lastLine (s : Source) : Nat := s.line + if s.ended then 0 else s.unread.length

theorem lastLine_fillFrom (s : Source) (lines : List String) :
    (s.fillFrom lines).lastLine = { s with unread := lines }.lastLine := by
  induction lines generalizing s with
  | nil => by_cases h : s.ready <;> simp [fillFrom, h, lastLine, close]
  | cons text rest ih =>
    by_cases h : s.ready
    · simp [fillFrom, h]
    · have he : s.ended = false := by
        cases hs : s.ended <;> simp_all [ready]
      rw [fillFrom, if_neg h, ih]
      simp only [lastLine, enter, he, List.length_cons, Bool.false_eq_true, if_false]
      omega

theorem lastLine_fill (s : Source) : s.fill.lastLine = s.lastLine := lastLine_fillFrom s s.unread

theorem lastLine_take (s : Source) : s.take.2.lastLine = s.lastLine := by
  rw [take]
  split <;> rfl

theorem lastLine_take_fill (s : Source) : s.fill.take.2.lastLine = s.lastLine :=
  s.fill.lastLine_take.trans s.lastLine_fill

theorem upcoming_of_cons {s : Source} {lexeme : Lexeme} {rest : List Lexeme}
    (h : s.fill.pending = lexeme :: rest) :
    s.upcoming = s.fill.take.1 :: s.fill.take.2.upcoming := by
  have hup := upcoming_take s.ready_fill
  rwa [upcoming_fill, h] at hup

theorem take_of_nil {s : Source} (h : s.fill.pending = []) :
    s.upcoming = [] ∧ s.fill.take = (.ok ⟨.endOfInput, s.lastLine⟩, s.fill) ∧
      s.fill.upcoming = [] := by
  have hup := upcoming_take s.ready_fill
  rw [upcoming_fill, h] at hup
  have hended : s.fill.ended = true := by simpa [ready, h] using s.ready_fill
  have hline : s.lastLine = s.fill.line := by
    rw [← s.lastLine_fill]
    simp [lastLine, hended]
  refine ⟨hup, ?_, ?_⟩
  · rw [take, h, hline]
  · rw [upcoming_fill, hup]

end Source

def upToEnd : List Event → List Event
  | [] => []
  | .error fault :: rest => .error fault :: upToEnd rest
  | .ok token :: rest =>
    if token.kind = .endOfInput then [.ok token] else .ok token :: upToEnd rest

theorem subset_upToEnd (events : List Event) : upToEnd events ⊆ events := by
  induction events with
  | nil => exact fun _ h => h
  | cons event rest ih =>
    cases event with
    | error fault => exact List.cons_subset_cons _ ih
    | ok token =>
      rw [upToEnd]
      split
      · exact List.cons_subset_cons _ (List.nil_subset rest)
      · exact List.cons_subset_cons _ ih

inductive Ended : List Event → Prop
  | last {token : Token} (h : token.kind = .endOfInput) : Ended [.ok token]
  | pass {token : Token} {rest : List Event} (h : token.kind ≠ .endOfInput) (later : Ended rest) :
    Ended (.ok token :: rest)
  | fault {fault : Fault} {rest : List Event} (later : Ended rest) : Ended (.error fault :: rest)

theorem ended_upToEnd {token : Token} (h : token.kind = .endOfInput) (events : List Event) :
    Ended (upToEnd (events ++ [.ok token])) := by
  induction events with
  | nil => simpa [upToEnd, h] using Ended.last h
  | cons event rest ih =>
    cases event with
    | error fault => exact .fault ih
    | ok first =>
      by_cases hk : first.kind = .endOfInput
      · simpa [upToEnd, hk] using Ended.last hk
      · simpa [upToEnd, hk] using Ended.pass hk ih

namespace Tokens

def events (t : Tokens) : List Event :=
  upToEnd (t.lookahead.map .ok ++ t.source.upcoming ++ [.ok ⟨.endOfInput, t.source.lastLine⟩])

variable {t t' : Tokens} {token : Token} {fault : Fault}

/-- A token ahead is the first event. It can be passed unless it is the end of input. -/
theorem events_of_head (h : t.lookahead.head? = some token) :
    if token.kind = .endOfInput then t.events = [.ok token] ∧ t.advance = t
    else t.events = .ok token :: t.advance.events := by
  obtain ⟨later, hl⟩ := List.head?_eq_some_iff.mp h
  by_cases hk : token.kind = .endOfInput <;> simp [events, advance, hl, hk, upToEnd]

theorem subset_advance (t : Tokens) : t.advance.events ⊆ t.events := by
  cases h : t.lookahead.head? with
  | none =>
    have hl : t.lookahead = [] := List.head?_eq_none_iff.mp h
    simp [advance, hl]
  | some token =>
    have hhead := events_of_head h
    split at hhead
    · rw [hhead.2]
      exact List.Subset.refl _
    · rw [hhead]
      exact List.subset_cons_self _ _

theorem events_of_peek_ok (h : t.peek = (.ok token, t')) : t'.events = t.events := by
  rw [peek] at h
  split at h
  · cases h
    rfl
  · rename_i hl
    dsimp only at h
    cases hp : t.source.fill.pending with
    | nil =>
      obtain ⟨hup, htake, hfill⟩ := Source.take_of_nil hp
      rw [htake] at h
      cases h
      simp [events, hl, hup, hfill, upToEnd]
    | cons lexeme rest =>
      have hup := Source.upcoming_of_cons hp
      split at h <;> cases h
      rename_i he
      rw [he] at hup
      simp only [events, hl, hup, Source.lastLine_take_fill, List.map_nil, List.map_cons,
        List.nil_append, List.cons_append]

theorem events_of_peek_error (h : t.peek = (.error fault, t')) :
    t.events = .error fault :: t'.events := by
  rw [peek] at h
  split at h
  · cases h
  · rename_i hl
    dsimp only at h
    cases hp : t.source.fill.pending with
    | nil => simp [Source.take, hp] at h
    | cons lexeme rest =>
      have hup := Source.upcoming_of_cons hp
      split at h <;> cases h
      rename_i he
      rw [he] at hup
      simp only [events, hl, hup, Source.lastLine_take_fill, List.map_nil, List.nil_append,
        List.cons_append, upToEnd]

theorem events_of_passed (h : t.peek = (.ok token, t')) :
    if token.kind = .endOfInput then t.events = [.ok token] ∧ t'.advance.events = [.ok token]
    else t.events = .ok token :: t'.advance.events := by
  have hhead := events_of_head (head?_peek h)
  rw [events_of_peek_ok h] at hhead
  split at hhead <;> rename_i hk
  · rw [if_pos hk, hhead.2, events_of_peek_ok h]
    exact ⟨hhead.1, hhead.1⟩
  · rwa [if_neg hk]

theorem exists_of_peek_ok (h : t.peek = (.ok token, t')) :
    ∃ later, t.events = .ok token :: later := by
  have hpassed := events_of_passed h
  split at hpassed
  · exact ⟨[], hpassed.1⟩
  · exact ⟨_, hpassed⟩

theorem peek_of_next_ok (h : t.next = (.ok token, t')) :
    ∃ peeked, t.peek = (.ok token, peeked) ∧ t' = peeked.advance := by
  rw [next] at h
  split at h <;> cases h
  rename_i peeked hp
  exact ⟨peeked, hp, rfl⟩

theorem peek_of_next_error (h : t.next = (.error fault, t')) : t.peek = (.error fault, t') := by
  rw [next] at h
  split at h <;> cases h
  assumption

theorem drain_eq_events (t : Tokens) : t.drain.1 = t.events := by
  fun_induction drain t with
  | case1 t token rest h hk =>
    obtain ⟨peeked, hp, rfl⟩ := peek_of_next_ok h
    have hpassed := events_of_passed hp
    rw [if_pos hk] at hpassed
    exact hpassed.1.symm
  | case2 t token rest h hk later ih =>
    obtain ⟨peeked, hp, rfl⟩ := peek_of_next_ok h
    have hpassed := events_of_passed hp
    rw [if_neg hk] at hpassed
    rw [hpassed, ← ih]
  | case3 t fault rest h later ih => rw [events_of_peek_error (peek_of_next_error h), ← ih]

theorem ended_events (t : Tokens) : Ended t.events := ended_upToEnd rfl _

end Tokens

end TableShell
