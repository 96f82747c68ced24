import TableShell.Proofs.ScannedTokens

namespace TableShell

def token? : Event → Option Token
  | .ok token => some token
  | .error _ => none

def fault? : Event → Option Fault
  | .ok _ => none
  | .error fault => some fault

namespace Tokens

inductive Op
  | peek
  | peekKind
  | next
  | nextIf (kind : TokenKind)
  | expect (kind : TokenKind)
  | expectName
  | expectLiteral
  | expectComparison
  | flush
  | rewind
  deriving DecidableEq, Repr

inductive Answer
  | done
  | token (token : Token)
  | kind (kind : TokenKind)
  | passed (was : Bool)
  | text (value : String)
  | comparison (c : Comparison)
  deriving DecidableEq, Repr

def ask (t : Tokens) : Op → Except Fault Answer × Tokens
  | .peek => (t.peek.1.map .token, t.peek.2)
  | .peekKind => (t.peek.1.map fun token => .kind token.kind, t.peek.2)
  | .next => (t.next.1.map .token, t.next.2)
  | .nextIf kind => ((t.nextIf kind).1.map .passed, (t.nextIf kind).2)
  | .expect kind => ((t.expect kind).1.map .token, (t.expect kind).2)
  | .expectName => (t.expectName.1.map .text, t.expectName.2)
  | .expectLiteral => (t.expectLiteral.1.map .text, t.expectLiteral.2)
  | .expectComparison => (t.expectComparison.1.map .comparison, t.expectComparison.2)
  | .flush => (.ok .done, t.flush)
  | .rewind => (.ok .done, t.rewind)

def asks (t : Tokens) : List Op → List (Except Fault Answer) × Tokens
  | [] => ([], t)
  | op :: ops =>
    let asked := t.ask op
    let later := asked.2.asks ops
    (asked.1 :: later.1, later.2)

/-- The answer says that no token was passed: it was only looked at, or it was not the one asked
for, or a fault stands in its place. -/
def Looks : Op → Except Fault Answer → Prop
  | _, .error _ => True
  | .peek, _ => True
  | .peekKind, _ => True
  | .nextIf _, answer => answer = .ok (.passed false)
  | _, _ => False

def lexical? {α : Type} : Except Fault α → Option Fault
  | .ok _ => none
  | .error fault => if fault.kind = .lexical then some fault else none

def forgotten (t : Tokens) : List Op → List Token
  | [] => []
  | op :: ops =>
    (if op = .flush then t.passed.reverse else []) ++ (t.ask op).2.forgotten ops

def held (t : Tokens) : List Token :=
  t.passed.reverse ++ t.lookahead.filter (·.kind ≠ .endOfInput)

def unscanned (t : Tokens) : List Event := (⟨t.source, [], []⟩ : Tokens).drain.1

variable {t t' : Tokens} {token : Token} {fault : Fault} {op : Op}

theorem next_of_peek_ok (h : t.peek = (.ok token, t')) : t.next = (.ok token, t'.advance) := by
  rw [next, h]

theorem next_of_peek_error (h : t.peek = (.error fault, t')) : t.next = (.error fault, t') := by
  rw [next, h]

/-- A token that is not the one asked for is only looked at, and is no fault of the source. -/
theorem ask_of_accept {α : Type} {extract : Token → Option α} {expected : String} {f : α → Answer}
    (ha : t.ask op = ((accept extract expected t).1.map f, (accept extract expected t).2))
    (hf : ∀ value, ¬ Looks op (.ok (f value))) (hp : t.peek = (.ok token, t')) :
    Looks op (t.ask op).1 ∧ (t.ask op).2 = t' ∧ lexical? (t.ask op).1 = none ∨
      ¬ Looks op (t.ask op).1 ∧ lexical? (t.ask op).1 = none ∧
        ∃ token, t.next = (.ok token, (t.ask op).2) := by
  rw [ha, accept, hp, next_of_peek_ok hp]
  dsimp only
  cases extract token with
  | none => exact .inl (by simp [Except.map, Looks, lexical?, Fault.kind])
  | some value => exact .inr (by simp [Except.map, hf, lexical?])

theorem ask_cases (t : Tokens) (op : Op) (hf : op ≠ .flush) (hr : op ≠ .rewind) :
    Looks op (t.ask op).1 ∧ (t.ask op).2 = t.peek.2 ∧
        lexical? (t.ask op).1 = lexical? t.peek.1 ∨
      ¬ Looks op (t.ask op).1 ∧ lexical? (t.ask op).1 = none ∧
        ∃ token, t.next = (.ok token, (t.ask op).2) := by
  cases hp : t.peek with
  | mk event peeked =>
    cases event with
    | error fault =>
      left
      cases op with
      | flush => exact absurd rfl hf
      | rewind => exact absurd rfl hr
      | _ =>
        simp [ask, next, nextIf, expect, expectName, expectLiteral, expectComparison, accept, hp,
          Looks, Except.map, lexical?]
    | ok token =>
      have hnext := next_of_peek_ok hp
      cases op with
      | flush => exact absurd rfl hf
      | rewind => exact absurd rfl hr
      | peek | peekKind => exact .inl (by simp [ask, hp, Looks, Except.map, lexical?])
      | next => exact .inr (by simp [ask, hnext, Looks, Except.map, lexical?])
      | nextIf kind =>
        by_cases hk : token.kind = kind
        · exact .inr (by simp [ask, nextIf, hp, hk, hnext, Looks, Except.map, lexical?])
        · exact .inl (by simp [ask, nextIf, hp, hk, Looks, Except.map, lexical?])
      | expect | expectName | expectLiteral | expectComparison =>
        exact ask_of_accept rfl (fun _ => id) hp

structure Clean (t : Tokens) : Prop where
  passed : ∀ token ∈ t.passed, token.kind ≠ .endOfInput
  source : Endless t.source.upcoming

theorem clean_ofLines (lines : List String) : (ofLines lines).Clean where
  passed _ hm := absurd hm List.not_mem_nil
  source := by
    rw [ofLines, Source.upcoming_ofLines]
    exact Source.endless_eventsFrom 0 false lines

theorem unscanned_eq (h : t.Clean) :
    t.unscanned = t.source.upcoming ++ [.ok ⟨.endOfInput, t.source.lastLine⟩] := by
  rw [unscanned, drain_eq_events]
  exact upToEnd_of_endless h.source rfl

/-- From `t` to `t'` these tokens are forgotten, these faults are met, and nothing else is lost or
added. -/
def Accounts (t t' : Tokens) (tokens : List Token) (faults : List Fault) : Prop :=
  ∃ scanned : List Event, t.unscanned = scanned ++ t'.unscanned ∧
    t.held ++ scanned.filterMap token? = tokens ++ t'.held ∧ scanned.filterMap fault? = faults

theorem Accounts.trans {t'' : Tokens} {tokens tokens' : List Token} {faults faults' : List Fault}
    (h : t.Accounts t' tokens faults) (h' : t'.Accounts t'' tokens' faults') :
    t.Accounts t'' (tokens ++ tokens') (faults ++ faults') := by
  obtain ⟨scanned, hrest, hheld, rfl⟩ := h
  obtain ⟨scanned', hrest', hheld', rfl⟩ := h'
  refine ⟨scanned ++ scanned', ?_, ?_, ?_⟩
  · rw [hrest, hrest', List.append_assoc]
  · rw [List.filterMap_append, ← List.append_assoc, hheld, List.append_assoc, hheld',
      List.append_assoc]
  · rw [List.filterMap_append]

/-- Nothing is scanned, and what is at hand is only told apart in another way. -/
theorem accounts_of_held (hsource : t'.source = t.source) (hheld : t'.held = t.held) :
    t.Accounts t' [] [] := by
  refine ⟨[], ?_, ?_, rfl⟩
  · rw [unscanned, unscanned, hsource]
    rfl
  · simp [hheld]

theorem accounts_advance (t : Tokens) : t.Accounts t.advance [] [] := by
  apply accounts_of_held
  · rw [advance]
    split
    · rfl
    · split <;> rfl
  · rw [advance]
    split
    · rfl
    · rename_i token rest hl
      split
      · rfl
      · rename_i hk
        simp [held, hl, hk]

theorem Clean.advance (h : t.Clean) : t.advance.Clean := by
  rw [Tokens.advance]
  split
  · exact h
  · split
    · exact h
    · rename_i hk
      exact ⟨List.forall_mem_cons.mpr ⟨hk, h.passed⟩, h.source⟩

theorem peek_of_nil (h : t.lookahead = []) :
    t.peek = (t.source.fill.take.1, { t with
      source := t.source.fill.take.2
      lookahead := (token? t.source.fill.take.1).toList }) := by
  rw [peek, h]
  dsimp only
  split <;> rename_i he <;> rw [he]
  · rfl
  · simp [token?]

theorem accounts_of_scanned {event : Event} {source : Source} (h : t.Clean)
    (hl : t.lookahead = []) (hup : t.source.upcoming = event :: source.upcoming)
    (hline : source.lastLine = t.source.lastLine) :
    Clean { t with source, lookahead := (token? event).toList } ∧
      t.Accounts { t with source, lookahead := (token? event).toList } []
        (fault? event).toList := by
  have hclean : Clean { t with source, lookahead := (token? event).toList } := by
    refine ⟨h.passed, fun token hm => h.source token ?_⟩
    rw [hup]
    exact List.mem_cons_of_mem _ hm
  refine ⟨hclean, [event], ?_, ?_, ?_⟩
  · rw [unscanned_eq h, unscanned_eq hclean, hup, hline]
    rfl
  · cases event with
    | error fault => simp [held, hl, token?]
    | ok token =>
      have hk : token.kind ≠ .endOfInput := h.source token (hup ▸ List.mem_cons_self)
      simp [held, hl, hk, token?]
  · cases event <;> rfl

/-- Only looking ahead scans, and no more than one token or fault. -/
theorem accounts_peek (h : t.Clean) :
    t.peek.2.Clean ∧ t.Accounts t.peek.2 [] (lexical? t.peek.1).toList := by
  cases hl : t.lookahead with
  | cons token rest =>
    have hp : t.peek = (.ok token, t) := by rw [peek, hl]
    rw [hp]
    exact ⟨h, accounts_of_held rfl rfl⟩
  | nil =>
    rw [peek_of_nil hl]
    cases hp : t.source.fill.pending with
    | nil =>
      obtain ⟨hup, htake, hfill⟩ := Source.take_of_nil hp
      rw [htake]
      have hclean : Clean { t with
          source := t.source.fill
          lookahead := [⟨.endOfInput, t.source.lastLine⟩] } := by
        refine ⟨h.passed, fun token hm => ?_⟩
        rw [hfill] at hm
        exact absurd hm List.not_mem_nil
      refine ⟨hclean, [], ?_, ?_, rfl⟩
      · rw [unscanned_eq h]
        refine Eq.trans ?_ (unscanned_eq hclean).symm
        rw [hup, hfill, Source.lastLine_fill]
      · simp [held, hl, token?]
    | cons lexeme rest =>
      have hscanned := accounts_of_scanned h hl (Source.upcoming_of_cons hp)
        t.source.lastLine_take_fill
      have hfaults : lexical? t.source.fill.take.1 = fault? t.source.fill.take.1 := by
        cases he : t.source.fill.take.1 with
        | ok token => rfl
        | error fault => simp [lexical?, fault?, Source.kind_of_take_error he]
      rw [hfaults]
      exact hscanned

theorem accounts_next (h : t.Clean) (hn : t.next = (.ok token, t')) :
    t'.Clean ∧ t.Accounts t' [] [] := by
  obtain ⟨peeked, hp, rfl⟩ := peek_of_next_ok hn
  obtain ⟨hclean, hpeek⟩ := accounts_peek h
  rw [hp] at hclean hpeek
  exact ⟨hclean.advance, hpeek.trans peeked.accounts_advance⟩

theorem accounts_flush (h : t.Clean) : t.flush.Clean ∧ t.Accounts t.flush t.passed.reverse [] := by
  refine ⟨⟨fun _ hm => absurd hm List.not_mem_nil, h.source⟩, [], rfl, ?_, rfl⟩
  simp [held, flush]

theorem accounts_rewind (h : t.Clean) : t.rewind.Clean ∧ t.Accounts t.rewind [] [] := by
  refine ⟨⟨fun _ hm => absurd hm List.not_mem_nil, h.source⟩, accounts_of_held rfl ?_⟩
  have hpassed : t.passed.filter (·.kind ≠ .endOfInput) = t.passed :=
    List.filter_eq_self.mpr fun token hm => by simpa using h.passed token hm
  simp only [held, rewind, List.filter_append, List.filter_reverse, hpassed]
  rfl

theorem accounts_ask (h : t.Clean) (op : Op) :
    (t.ask op).2.Clean ∧
      t.Accounts (t.ask op).2 (if op = .flush then t.passed.reverse else [])
        (lexical? (t.ask op).1).toList := by
  by_cases hf : op = .flush
  · subst hf
    exact accounts_flush h
  rw [if_neg hf]
  by_cases hr : op = .rewind
  · subst hr
    exact accounts_rewind h
  obtain ⟨-, hstate, hfaults⟩ | ⟨-, hfaults, token, hn⟩ := t.ask_cases op hf hr
  · rw [hstate, hfaults]
    exact accounts_peek h
  · rw [hfaults]
    exact accounts_next h hn

theorem accounts_asks (h : t.Clean) (ops : List Op) :
    (t.asks ops).2.Clean ∧
      t.Accounts (t.asks ops).2 (t.forgotten ops) ((t.asks ops).1.filterMap lexical?) := by
  induction ops generalizing t with
  | nil => exact ⟨h, accounts_of_held rfl rfl⟩
  | cons op ops ih =>
    obtain ⟨hclean, hask⟩ := accounts_ask h op
    obtain ⟨hlast, hasks⟩ := ih hclean
    have hfaults : (t.asks (op :: ops)).1.filterMap lexical? =
        (lexical? (t.ask op).1).toList ++ ((t.ask op).2.asks ops).1.filterMap lexical? := by
      simp only [asks, List.filterMap_cons]
      cases lexical? (t.ask op).1 <;> rfl
    rw [hfaults]
    exact ⟨hlast, hask.trans hasks⟩

theorem passed_peek (t : Tokens) : t.peek.2.passed = t.passed := by
  cases hl : t.lookahead with
  | nil => rw [peek_of_nil hl]
  | cons token rest => rw [peek, hl]

theorem peek_of_head (h : t.lookahead.head? = some token) : t.peek = (.ok token, t) := by
  obtain ⟨later, hl⟩ := List.head?_eq_some_iff.mp h
  rw [peek, hl]

theorem passed_of_peek_ok (h : t.peek = (.ok token, t')) :
    t'.advance.passed = if token.kind = .endOfInput then t.passed else token :: t.passed := by
  have hpassed : t'.passed = t.passed := by
    have hpeek := t.passed_peek
    rwa [h] at hpeek
  obtain ⟨rest, hl⟩ := List.head?_eq_some_iff.mp (head?_peek h)
  rw [advance, hl]
  dsimp only
  split <;> rw [hpassed]

theorem kind_of_peek_error (h : t.peek = (.error fault, t')) : fault.kind = .lexical := by
  cases hl : t.lookahead with
  | nil =>
    rw [peek_of_nil hl] at h
    exact Source.kind_of_take_error (congrArg Prod.fst h)
  | cons token rest =>
    rw [peek, hl] at h
    cases h

theorem eq_of_lexical? {α : Type} {answer : Except Fault α} (h : lexical? answer = some fault) :
    answer = .error fault := by
  cases answer with
  | ok value => cases h
  | error found =>
    rw [lexical?] at h
    split at h <;> cases h
    rfl

/-- Looking at the next token, or refusing it, leaves it the next one; a fault that stands before it
is answered and gone. -/
theorem ask_of_looks (h : Looks op (t.ask op).1) :
    (t.ask op).2.passed = t.passed ∧
      (t.ask op).2.drain.1.filterMap token? = t.drain.1.filterMap token? ∧
      ((t.ask op).2.next = t.next ∨
        ∃ fault, (t.ask op).1 = .error fault ∧ t.next = (.error fault, (t.ask op).2)) := by
  have hf : op ≠ .flush := by
    rintro rfl
    exact h
  have hr : op ≠ .rewind := by
    rintro rfl
    exact h
  obtain ⟨-, hstate, hfaults⟩ | ⟨hpasses, -⟩ := t.ask_cases op hf hr
  · rw [hstate, drain_eq_events, drain_eq_events]
    refine ⟨t.passed_peek, ?_⟩
    cases hp : t.peek with
    | mk event peeked =>
      cases event with
      | ok token =>
        have hnext := next_of_peek_ok (peek_of_head (head?_peek hp))
        exact ⟨by rw [events_of_peek_ok hp], .inl (hnext.trans (next_of_peek_ok hp).symm)⟩
      | error fault =>
        have hfault : lexical? (t.ask op).1 = some fault := by
          rw [hfaults, hp]
          simp [lexical?, kind_of_peek_error hp]
        refine ⟨by rw [events_of_peek_error hp]; rfl, .inr ⟨fault, ?_, next_of_peek_error hp⟩⟩
        exact eq_of_lexical? hfault
  · exact absurd h hpasses

theorem ask_of_not_looks (hf : op ≠ .flush) (hr : op ≠ .rewind) (h : ¬ Looks op (t.ask op).1) :
    ∃ token, t.next = (.ok token, (t.ask op).2) ∧
      (t.ask op).2.passed = if token.kind = .endOfInput then t.passed else token :: t.passed := by
  obtain ⟨hlooks, -⟩ | ⟨-, -, token, hn⟩ := t.ask_cases op hf hr
  · exact absurd hlooks h
  · refine ⟨token, hn, ?_⟩
    obtain ⟨peeked, hp, hstate⟩ := peek_of_next_ok hn
    rw [hstate, passed_of_peek_ok hp]

theorem asks_next (passing lookahead : List Token) (h : ∀ token ∈ passing, token.kind ≠ .endOfInput)
    (ht : t.lookahead = passing ++ lookahead) :
    t.asks (List.replicate passing.length .next) =
      (passing.map fun token => .ok (.token token),
        { t with lookahead, passed := passing.reverse ++ t.passed }) := by
  induction passing generalizing t with
  | nil =>
    obtain rfl : t.lookahead = lookahead := ht
    rfl
  | cons token passing ih =>
    obtain ⟨hk, hrest⟩ := List.forall_mem_cons.mp h
    let later : Tokens := { t with lookahead := passing ++ lookahead, passed := token :: t.passed }
    have hnext : t.next = (.ok token, later) := by
      rw [next_of_peek_ok (by rw [peek, ht]; rfl), advance, ht]
      simp [hk, later]
    have hlater := ih hrest (t := later) rfl
    rw [List.length_cons, List.replicate_succ, asks, ask, hnext]
    simp [hlater, Except.map, later]

theorem asks_rewind (h : t.Clean) :
    t.rewind.asks (List.replicate t.passed.length .next) =
      (t.passed.reverse.map fun token => .ok (.token token), t) := by
  have hasks := asks_next t.passed.reverse t.lookahead (t := t.rewind)
    (fun token hm => h.passed token (List.mem_reverse.mp hm)) rfl
  rw [List.length_reverse] at hasks
  simpa [rewind] using hasks

def Answer.AtEnd : Answer → Prop
  | .token found => found.kind = .endOfInput
  | .kind found => found = .endOfInput
  | _ => False

def EndsAt (token : Token) (t : Tokens) : Prop :=
  t.lookahead.head? = some token ∧ token.kind = .endOfInput

/-- Nothing is gone back to: where it is asked for, nothing has been passed. -/
def Unrewound (t : Tokens) : List Op → Prop
  | [] => True
  | op :: ops => (op = .rewind → t.passed = []) ∧ (t.ask op).2.Unrewound ops

namespace EndsAt

theorem peek (h : t.EndsAt token) : t.peek = (.ok token, t) := peek_of_head h.1

theorem next (h : t.EndsAt token) : t.next = (.ok token, t) := by
  have hhead := events_of_head h.1
  rw [if_pos h.2] at hhead
  rw [next_of_peek_ok h.peek, hhead.2]

theorem ask (h : t.EndsAt token) (hr : op = .rewind → t.passed = []) :
    (t.ask op).2.EndsAt token := by
  by_cases hf : op = .flush
  · subst hf
    exact h
  by_cases hw : op = .rewind
  · subst hw
    have hsame : t.rewind = t := by
      cases t
      simp_all [Tokens.rewind]
    exact hsame.symm ▸ h
  obtain ⟨-, hstate, -⟩ | ⟨-, -, passed, hn⟩ := t.ask_cases op hf hw
  · rw [hstate, h.peek]
    exact h
  · have hstate := congrArg Prod.snd (h.next.symm.trans hn)
    rwa [← hstate]

theorem asks {ops : List Op} (h : t.EndsAt token) (hops : t.Unrewound ops) :
    (t.asks ops).2.EndsAt token := by
  induction ops generalizing t with
  | nil => exact h
  | cons op ops ih => exact ih (h.ask hops.1) hops.2

end EndsAt

theorem peek_of_accept_ok {α : Type} {extract : Token → Option α} {expected : String} {value : α}
    (h : (accept extract expected t).1 = .ok value) :
    ∃ token peeked, t.peek = (.ok token, peeked) ∧ extract token = some value := by
  rw [accept] at h
  split at h
  · rename_i token peeked hp
    split at h
    · rename_i found he
      cases h
      exact ⟨token, peeked, hp, he⟩
    · cases h
  · cases h

theorem peek_of_answer {answer : Answer} (h : (t.ask op).1 = .ok answer) (hend : answer.AtEnd) :
    ∃ token peeked, t.peek = (.ok token, peeked) ∧ token.kind = .endOfInput := by
  cases op with
  | peek | peekKind =>
    obtain ⟨token, hp, rfl⟩ := exists_of_map_eq_ok h
    exact ⟨token, t.peek.2, Prod.ext hp rfl, hend⟩
  | next =>
    obtain ⟨token, hn, rfl⟩ := exists_of_map_eq_ok h
    obtain ⟨peeked, hp, -⟩ := peek_of_next_ok (Prod.ext hn rfl)
    exact ⟨token, peeked, hp, hend⟩
  | expect kind =>
    obtain ⟨found, ha, rfl⟩ := exists_of_map_eq_ok h
    obtain ⟨token, peeked, hp, he⟩ := peek_of_accept_ok ha
    obtain ⟨-, hfound⟩ := Option.ite_none_right_eq_some.mp he
    cases hfound
    exact ⟨found, peeked, hp, hend⟩
  | flush | rewind =>
    cases h
    exact absurd hend id
  | nextIf | expectName | expectLiteral | expectComparison =>
    obtain ⟨value, -, rfl⟩ := exists_of_map_eq_ok h
    exact absurd hend id

theorem endsAt_of_answer {answer : Answer} (h : (t.ask op).1 = .ok answer) (hend : answer.AtEnd) :
    ∃ token, (t.ask op).2.EndsAt token := by
  obtain ⟨token, peeked, hp, hk⟩ := peek_of_answer h hend
  refine ⟨token, ?_⟩
  have hpeeked : peeked.EndsAt token := ⟨head?_peek hp, hk⟩
  have hf : op ≠ .flush := by
    rintro rfl
    cases h
    exact hend
  have hr : op ≠ .rewind := by
    rintro rfl
    cases h
    exact hend
  obtain ⟨-, hstate, -⟩ | ⟨-, -, passed, hn⟩ := t.ask_cases op hf hr
  · rw [hstate, hp]
    exact hpeeked
  · have hlast : t.next = (.ok token, peeked) :=
      (next_of_peek_ok hp).trans ((next_of_peek_ok hpeeked.peek).symm.trans hpeeked.next)
    have hstate := congrArg Prod.snd (hlast.symm.trans hn)
    rwa [← hstate]

structure Faithful (lines : List String) (tokens : List Token) (faults : List Fault) (t : Tokens) :
    Prop where
  /-- What has been scanned is the first part of all there is. Its tokens are those forgotten, those
  passed since and those looked at; its faults are those answered. -/
  scanned : ∃ scanned : List Event, (ofLines lines).drain.1 = scanned ++ t.unscanned ∧
    scanned.filterMap token? =
      tokens ++ t.passed.reverse ++ t.lookahead.filter (·.kind ≠ .endOfInput) ∧
    scanned.filterMap fault? = faults
  looks : ∀ op, Looks op (t.ask op).1 →
    (t.ask op).2.passed = t.passed ∧
      (t.ask op).2.drain.1.filterMap token? = t.drain.1.filterMap token? ∧
      ((t.ask op).2.next = t.next ∨
        ∃ fault, (t.ask op).1 = .error fault ∧ t.next = (.error fault, (t.ask op).2))
  passes : ∀ op, op ≠ .flush → op ≠ .rewind → ¬ Looks op (t.ask op).1 →
    ∃ token, t.next = (.ok token, (t.ask op).2) ∧
      (t.ask op).2.passed = if token.kind = .endOfInput then t.passed else token :: t.passed
  replays : (t.ask .rewind).2.asks (List.replicate t.passed.length .next) =
    (t.passed.reverse.map fun token => .ok (.token token), t)
  ends : ∀ op answer, (t.ask op).1 = .ok answer → answer.AtEnd →
    ∃ token : Token, token.kind = .endOfInput ∧ ∀ ops, (t.ask op).2.Unrewound ops →
      (((t.ask op).2.asks ops).2.ask .peek).1 = .ok (.token token) ∧
        (((t.ask op).2.asks ops).2.ask .next).1 = .ok (.token token)

/-- Whatever is asked of the tokens of some lines, in whatever order, all tokens and faults of the
lines are accounted for. -/
theorem faithful_asks (lines : List String) (ops : List Op) :
    Faithful lines ((ofLines lines).forgotten ops)
      (((ofLines lines).asks ops).1.filterMap lexical?) ((ofLines lines).asks ops).2 := by
  obtain ⟨hclean, scanned, hall, htokens, hfaults⟩ :=
    accounts_asks (clean_ofLines lines) ops
  refine ⟨⟨scanned, hall, ?_, hfaults⟩, fun op => ask_of_looks, fun op => ask_of_not_looks,
    asks_rewind hclean, fun op answer h hend => ?_⟩
  · rw [List.append_assoc]
    exact htokens
  · obtain ⟨token, hends⟩ := endsAt_of_answer h hend
    refine ⟨token, hends.2, fun ops hops => ?_⟩
    have hlast := hends.asks hops
    rw [ask, ask, hlast.peek, hlast.next]
    exact ⟨rfl, rfl⟩

end Tokens

end TableShell
