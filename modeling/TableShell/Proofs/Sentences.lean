import TableShell.Proofs.Reading
import TableShell.Statement.Grammar

namespace TableShell

open Grammar

namespace Draft

variable {draft draft' : Draft} {kind separator : TokenKind} {kinds later : List TokenKind}
  {statement : Statement}

def reach (draft : Draft) : List TokenKind → Option Draft
  | [] => some draft
  | kind :: kinds =>
    match draft.step kind with
    | .shift draft => draft.reach kinds
    | _ => none

theorem reach_cons (h : draft.step kind = .shift draft') (kinds : List TokenKind) :
    draft.reach (kind :: kinds) = draft'.reach kinds := by
  rw [reach, h]

theorem reach_cons_eq_some (h : draft.reach (kind :: kinds) = some draft') :
    ∃ next, draft.step kind = .shift next ∧ next.reach kinds = some draft' := by
  rw [reach] at h
  split at h
  · exact ⟨_, ‹_›, h⟩
  · cases h

theorem reach_append (h : draft.reach kinds = some draft') (later : List TokenKind) :
    draft.reach (kinds ++ later) = draft'.reach later := by
  induction kinds generalizing draft with
  | nil =>
    cases h
    rfl
  | cons kind kinds ih =>
    obtain ⟨next, hstep, hnext⟩ := reach_cons_eq_some h
    rw [List.cons_append, reach_cons hstep, ih hnext]

theorem semicolon_not_mem_of_reach (h : draft.reach kinds = some draft') : .semicolon ∉ kinds := by
  induction kinds generalizing draft with
  | nil => exact List.not_mem_nil
  | cons kind kinds ih =>
    obtain ⟨next, hstep, hnext⟩ := reach_cons_eq_some h
    intro hm
    obtain rfl | hm := List.mem_cons.mp hm
    · exact step_semicolon draft next hstep
    · exact ih hnext hm

theorem eq_nil_of_reach_empty (h : draft.reach kinds = some empty) : kinds = [] := by
  induction kinds generalizing draft with
  | nil => rfl
  | cons kind kinds ih =>
    obtain ⟨next, hstep, hnext⟩ := reach_cons_eq_some h
    obtain rfl := ih hnext
    cases hnext
    exact absurd hstep (step_ne_shift_empty kind draft)

theorem reading_of_reach {tokens : List Token}
    (h : draft.reach (tokens.map Token.kind) = some draft') (later : List Event) :
    draft.reading (tokens.map .ok ++ later) = draft'.reading later := by
  induction tokens generalizing draft with
  | nil =>
    cases h
    rfl
  | cons token tokens ih =>
    obtain ⟨next, hstep, hnext⟩ := reach_cons_eq_some h
    rw [List.map_cons, List.cons_append, reading, hstep]
    exact ih hnext

theorem exists_reach_of_reading {events : List Event} (h : draft.reading events = .ok statement) :
    ∃ (tokens : List Token) (last : Token) (later : List Event) (draft' : Draft),
      events = tokens.map .ok ++ .ok last :: later ∧
      draft.reach (tokens.map Token.kind) = some draft' ∧
      draft'.step last.kind = .finish statement := by
  induction events generalizing draft with
  | nil => cases h
  | cons event rest ih =>
    cases event with
    | error fault => cases h
    | ok token =>
      rw [reading] at h
      cases hstep : draft.step token.kind with
      | shift next =>
        rw [hstep] at h
        obtain ⟨tokens, last, later, draft', rfl, hreach, hlast⟩ := ih h
        exact ⟨token :: tokens, last, later, draft', rfl, (reach_cons hstep _).trans hreach, hlast⟩
      | finish found =>
        rw [hstep] at h
        cases h
        exact ⟨[], token, rest, draft, rfl, rfl, hstep⟩
      | refuse =>
        rw [hstep] at h
        cases h

section Completeness

variable {name table : String} {purpose : Purpose} {columns tables : List String}

theorem reach_name {after : String → Draft}
    (hstep : ∀ kind, draft.step kind = onSome kind.name? after) (h : Name kinds name) :
    draft.reach kinds = some (after name) := by
  cases h <;> rw [reach_cons (hstep _)] <;> rfl

theorem reach_verb (verb : TableVerb) (h : Name kinds name) :
    (named verb).reach kinds = some (complete (verb.statement name)) := by
  cases h <;> rfl

/-- Items are shifted one after another, and kept newest first. -/
theorem reach_separated {α : Type} {Item : Phrase α} (start after : List α → Draft)
    (hitem : ∀ {kinds a} as, Item kinds a → (start as).reach kinds = some (after (a :: as)))
    (hsep : ∀ as, (after as).step separator = .shift (start as)) {as : List α}
    (h : Separated separator Item kinds as) :
    (start []).reach kinds = some (after as.reverse) := by
  have hfrom : ∀ before, (start before).reach kinds = some (after (as.reverse ++ before)) := by
    induction h with
    | one item => exact fun before => hitem before item
    | more item items ih =>
      intro before
      rw [reach_append (hitem before item), reach_cons (hsep _), ih]
      simp
  rw [hfrom, List.append_nil]

theorem reach_names (start after : List String → Draft)
    (hitem : ∀ names kind,
      (start names).step kind = onSome kind.name? fun name => after (name :: names))
    (hsep : ∀ names, (after names).step .comma = .shift (start names)) {names : List String}
    (h : Separated .comma Name kinds names) :
    (start []).reach kinds = some (after names.reverse) :=
  reach_separated start after (fun as hn => reach_name (hitem as) hn) hsep h

theorem reach_titles {titles : List String} (h : Separated .comma Name kinds titles) :
    (createColumn name []).reach kinds = some (createAfterColumn name titles.reverse) :=
  reach_names (createColumn name) (createAfterColumn name) (fun _ _ => rfl) (fun _ => rfl) h

theorem reach_row {rows : List (List String)} {cells : List String} (h : RowPhrase kinds cells) :
    (insertRow table rows).reach kinds = some (insertAfterRow table (cells :: rows)) := by
  cases h with
  | cells hc =>
    have hcells := reach_separated (insertCell table rows) (insertAfterCell table rows)
      (fun as hl => by cases hl; rfl) (fun _ => rfl) hc
    rw [List.cons_append, reach_cons (by rfl), reach_append hcells]
    simp [reach, step, on, orComma]

theorem reach_rows {rows : List (List String)} (h : Separated .comma RowPhrase kinds rows) :
    (insertRow table []).reach kinds = some (insertAfterRow table rows.reverse) :=
  reach_separated (insertRow table) (insertAfterRow table) (fun _ => reach_row) (fun _ => rfl) h

theorem reach_columns (h : Separated .comma Name kinds columns) :
    (selectColumn purpose []).reach kinds = some (selectAfterColumn purpose columns.reverse) :=
  reach_names (selectColumn purpose) (selectAfterColumn purpose) (fun _ _ => rfl) (fun _ => rfl) h

theorem reach_tables (h : Separated .comma Name kinds tables) :
    (selectAfterColumn purpose columns).reach (.keyword .from :: kinds) =
      some (selectAfterTable purpose columns tables.reverse) := by
  rw [reach_cons (by rfl)]
  exact reach_names (selectTable purpose columns) (selectAfterTable purpose columns)
    (fun _ _ => rfl) (fun _ => rfl) h

theorem reach_cond {conditions : List Condition} {c : Condition} (h : Cond kinds c) :
    (condition purpose columns tables conditions).reach kinds =
      some (afterCondition purpose columns tables (c :: conditions)) := by
  cases h with
  | literal c hc hv =>
    rw [reach_append (reach_name (fun _ => rfl) hc), reach_cons (by rfl)]
    cases hv
    rfl
  | column c hc ho =>
    rw [reach_append (reach_name (fun _ => rfl) hc), reach_cons (by rfl)]
    cases ho <;> rfl

theorem reach_conditions {conditions : List Condition}
    (h : Separated (.keyword .and) Cond kinds conditions) :
    (selectAfterTable purpose columns tables).reach (.keyword .where :: kinds) =
      some (afterCondition purpose columns tables conditions.reverse) := by
  rw [reach_cons (by rfl)]
  exact reach_separated (condition purpose columns tables) (afterCondition purpose columns tables)
    (fun _ => reach_cond) (fun _ => rfl) h

theorem exists_reach_of_selection {q : Query}
    (hstep : draft.step (.keyword .select) = .shift (selectColumn purpose []))
    (h : Selection kinds q) :
    ∃ draft', draft.reach kinds = some draft' ∧
      draft'.step .semicolon = .finish (purpose.statement q) := by
  cases h with
  | @all cs ts columns tables hc ht =>
    refine ⟨selectAfterTable purpose columns.reverse tables.reverse, ?_, ?_⟩
    · rw [List.cons_append, reach_cons hstep, reach_append (reach_columns hc), reach_tables ht]
    · simp [step, orComma, finishOn, query]
  | @filtered cs ts ws columns tables conditions hc ht hw =>
    refine ⟨afterCondition purpose columns.reverse tables.reverse conditions.reverse, ?_, ?_⟩
    · rw [List.append_assoc, List.cons_append, reach_cons hstep, reach_append (reach_columns hc),
        reach_append (reach_tables ht), reach_conditions hw]
    · simp [step, finishOn, query]

theorem finishes_of_sentence (h : Sentence kinds statement) :
    ∃ body draft', kinds = body ++ [.semicolon] ∧ empty.reach body = some draft' ∧
      draft'.step .semicolon = .finish statement := by
  cases h with
  | @create n body name definition hn hd =>
    have hname : empty.reach (.keyword .create :: .keyword .table :: n) =
        some (createNamed name) := by
      rw [reach_cons (by rfl), reach_cons (by rfl)]
      exact reach_name (fun _ => rfl) hn
    cases hd with
    | @columns kinds titles ht =>
      refine ⟨_, complete (.create name (.columns titles)), rfl, ?_, rfl⟩
      rw [reach_append hname, List.cons_append, reach_cons (by rfl),
        reach_append (reach_titles ht)]
      simp [reach, step, on, orComma]
    | @query kinds q hq =>
      obtain ⟨draft', hreach, hlast⟩ :=
        exists_reach_of_selection (by rfl : (createAs name).step _ = _) hq
      refine ⟨_, draft', rfl, ?_, hlast⟩
      rw [reach_append hname, reach_cons (by rfl), hreach]
  | @insert n body name rows hn hr =>
    have hname : empty.reach (.keyword .insert :: .keyword .into :: n) =
        some (insertNamed name) := by
      rw [reach_cons (by rfl), reach_cons (by rfl)]
      exact reach_name (fun _ => rfl) hn
    refine ⟨_, insertAfterRow name rows.reverse, rfl, ?_, ?_⟩
    · rw [reach_append hname, reach_cons (by rfl), reach_rows hr]
    · simp [step, orComma, finishOn]
  | load hn => exact ⟨_, _, rfl, (reach_cons (by rfl) _).trans (reach_verb .load hn), rfl⟩
  | store hn => exact ⟨_, _, rfl, (reach_cons (by rfl) _).trans (reach_verb .store hn), rfl⟩
  | print hn => exact ⟨_, _, rfl, (reach_cons (by rfl) _).trans (reach_verb .print hn), rfl⟩
  | select hq =>
    obtain ⟨draft', hreach, hlast⟩ := exists_reach_of_selection (by rfl : empty.step _ = _) hq
    exact ⟨_, draft', rfl, hreach, hlast⟩
  | exit => exact ⟨[.keyword .exit], complete .exit, rfl, rfl, rfl⟩
  | quit => exact ⟨[.keyword .quit], complete .exit, rfl, rfl, rfl⟩

end Completeness

end Draft

namespace Grammar

variable {kinds : List TokenKind} {statement statement' : Statement}

theorem statement_unique (h : Sentence kinds statement) (h' : Sentence kinds statement') :
    statement = statement' := by
  obtain ⟨body, draft, rfl, hreach, hlast⟩ := Draft.finishes_of_sentence h
  obtain ⟨body', draft', hbody, hreach', hlast'⟩ := Draft.finishes_of_sentence h'
  obtain rfl := List.append_cancel_right hbody
  rw [hreach] at hreach'
  cases hreach'
  rw [hlast] at hlast'
  cases hlast'
  rfl

end Grammar

end TableShell
