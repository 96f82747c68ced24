import Mathlib.Data.List.DropRight
import TableShell.Proofs.Rounds

namespace TableShell

def sinceSemicolon (events : List Event) : List Event :=
  events.rtakeWhile fun event => !isSemicolon event

theorem sinceSemicolon_concat (events : List Event) (event : Event) :
    sinceSemicolon (events ++ [event]) =
      if isSemicolon event then [] else sinceSemicolon events ++ [event] := by
  rw [sinceSemicolon, List.rtakeWhile_concat]
  cases isSemicolon event <;> rfl

namespace Prompt

def after (events : List Event) : Prompt :=
  if (sinceSemicolon events).any Except.isOk then continuation else statement

theorem text_after (events : List Event) :
    (after events).text = if (sinceSemicolon events).any Except.isOk then "... " else "> " := by
  rw [after]
  split <;> rfl

/-- The prompt that is due after these events: a fault is a part of its statement, too. -/
def due (events : List Event) : Prompt :=
  if sinceSemicolon events = [] then statement else continuation

theorem after_eq_due_iff (events : List Event) :
    after events = due events ↔
      sinceSemicolon events = [] ∨ ∃ token : Token, .ok token ∈ sinceSemicolon events := by
  have hany : (sinceSemicolon events).any Except.isOk = true ↔
      ∃ token : Token, .ok token ∈ sinceSemicolon events := by
    rw [List.any_eq_true]
    constructor
    · rintro ⟨event, hm, hok⟩
      cases event with
      | error fault => cases hok
      | ok token => exact ⟨token, hm⟩
    · rintro ⟨token, hm⟩
      exact ⟨_, hm, rfl⟩
  rw [after, due, ← hany]
  by_cases hnil : sinceSemicolon events = []
  · simp [hnil]
  · by_cases hok : (sinceSemicolon events).any Except.isOk <;> simp [hnil, hok]

end Prompt

def begun (inStatement : Bool) : List Event → Bool
  | [] => inStatement
  | .ok token :: rest => begun (token.kind ≠ .semicolon) rest
  | .error _ :: rest => begun inStatement rest

theorem begun_append (inStatement : Bool) (events later : List Event) :
    begun inStatement (events ++ later) = begun (begun inStatement events) later := by
  induction events generalizing inStatement with
  | nil => rfl
  | cons event rest ih => cases event <;> exact ih _

theorem begun_false (events : List Event) :
    begun false events = (sinceSemicolon events).any Except.isOk := by
  induction events using List.reverseRecOn with
  | nil => rfl
  | append_singleton events event ih =>
    rw [begun_append, ih, sinceSemicolon_concat]
    cases event with
    | error fault => simp [begun, isSemicolon, Except.isOk, Except.toBool]
    | ok token =>
      by_cases hk : token.kind = .semicolon <;>
        simp [begun, isSemicolon, hk, Except.isOk, Except.toBool]

namespace Source

/-- The events of some lines. A comment that they leave open is no event. -/
def scanned (number : Nat) (inComment : Bool) : List String → List Event
  | [] => []
  | text :: rest =>
    let found := Scan.line inComment text.toList
    found.1.map (Lexeme.at (number + 1)) ++ scanned (number + 1) found.2 rest

def promptOf (inStatement : Bool) : Prompt := if inStatement then .continuation else .statement

theorem promptOf_begun (events : List Event) : promptOf (begun false events) = Prompt.after events := by
  rw [promptOf, begun_false, Prompt.after]

def promptsFrom (number : Nat) (inComment inStatement : Bool) : List String → List Prompt
  | [] => [promptOf inStatement]
  | text :: rest =>
    let found := Scan.line inComment text.toList
    promptOf inStatement ::
      promptsFrom (number + 1) found.2
        (begun inStatement (found.1.map (Lexeme.at (number + 1)))) rest

theorem promptsFrom_eq (number : Nat) (inComment inStatement : Bool) (lines : List String) :
    promptsFrom number inComment inStatement lines =
      (List.range (lines.length + 1)).map fun n =>
        promptOf (begun inStatement (scanned number inComment (lines.take n))) := by
  induction lines generalizing number inComment inStatement with
  | nil => rfl
  | cons text rest ih =>
    rw [promptsFrom, ih, List.length_cons, List.range_succ_eq_map (n := rest.length + 1),
      List.map_cons, List.map_map]
    simp [scanned, begun, begun_append, Function.comp_def]

def promptsToCome (s : Source) : List Prompt :=
  if s.ended then []
  else promptsFrom s.line s.inComment (begun s.inStatement (s.pending.map (Lexeme.at s.line)))
    s.unread

def allPrompts (s : Source) : List Prompt := s.prompts.reverse ++ s.promptsToCome

theorem allPrompts_fillFrom (s : Source) (lines : List String) :
    (s.fillFrom lines).allPrompts = { s with unread := lines }.allPrompts := by
  induction lines generalizing s with
  | nil =>
    by_cases h : s.ready
    · simp [fillFrom, h]
    · have hp : s.pending = [] ∧ s.ended = false := by simpa [ready, and_comm] using h
      simp [fillFrom, h, allPrompts, promptsToCome, promptsFrom, close, hp, begun, prompt, promptOf]
  | cons text rest ih =>
    by_cases h : s.ready
    · simp [fillFrom, h]
    · have hp : s.pending = [] ∧ s.ended = false := by simpa [ready, and_comm] using h
      rw [fillFrom, if_neg h, ih]
      simp [allPrompts, promptsToCome, promptsFrom, enter, hp, begun, prompt, promptOf]

theorem allPrompts_fill (s : Source) : s.fill.allPrompts = s.allPrompts :=
  allPrompts_fillFrom s s.unread

theorem allPrompts_take (s : Source) : s.take.2.allPrompts = s.allPrompts := by
  rw [take]
  split <;> rename_i hp
  · rfl
  · simp [allPrompts, promptsToCome, hp, begun, Lexeme.at]
  · simp [allPrompts, promptsToCome, hp, begun, Lexeme.at]

def asked (s : Source) : Nat := s.line + if s.ended then 1 else 0

def Steady (P : Source → Prop) : Prop := ∀ s : Source, P s → P s.fill.take.2

theorem steady_prompts (prompts : List Prompt) (last : Nat) :
    Steady fun s => s.allPrompts = prompts ∧ s.lastLine = last := by
  rintro s ⟨rfl, rfl⟩
  exact ⟨(allPrompts_take _).trans (allPrompts_fill s), lastLine_take_fill s⟩

end Source

theorem Source.Steady.tokens {P : Source → Prop} (hP : Steady P) :
    Tokens.Steady fun t => P t.source where
  peek {t} h := by
    have htaken := hP t.source h
    rw [Tokens.peek]
    split
    · exact h
    · dsimp only
      split <;> exact htaken
  advance {t} h := by
    rw [Tokens.advance]
    split
    · exact h
    · split <;> exact h
  flush h := h

/-- No line is asked for while something that has been read is waiting. -/
theorem Tokens.prompts_peek_of_waiting {t : Tokens} (h : t.waiting ≠ 0) :
    t.peek.2.source.prompts = t.source.prompts := by
  rw [peek]
  split
  · rfl
  · rename_i hl
    have hready : t.source.ready = true := by
      have hne : t.source.pending ≠ [] := by
        intro hnil
        simp [waiting, hl, hnil] at h
      simp [Source.ready, hne]
    have htake : t.source.take.2.prompts = t.source.prompts := by
      rw [Source.take]
      split <;> rfl
    rw [Source.fill_of_ready hready]
    dsimp only
    split <;> exact htake

namespace Output

def prompts (o : Output) : List ByteArray :=
  (o.parts.filter fun part => part.1 = PartKind.prompt).reverse.map Prod.snd

variable {o : Output}

theorem prompts_write_answer (o : Output) (text : String) :
    (o.write .answer text).2.prompts = o.prompts := by
  rw [write]
  split <;> simp [prompts]

theorem prompts_foldl (h : o.room = none) (ps : List Prompt) :
    (ps.foldl (fun output prompt => (output.write .prompt prompt.text).2) o).prompts =
      o.prompts ++ ps.map fun prompt => prompt.text.toUTF8 := by
  induction ps generalizing o with
  | nil => simp
  | cons prompt rest ih =>
    rw [List.foldl_cons, write_of_unlimited h]
    dsimp only
    rw [ih]
    · simp [prompts]
    · exact h

end Output

namespace Session

variable {s : Session} {lines : List String}

/-- The prompts written are those asked for so far of the ones for these lines. -/
structure Prompted (lines : List String) (s : Session) : Prop where
  prompting : s.prompting = true
  unlimited : s.Unlimited
  collected : s.reader.tokens.source.prompts = []
  written : s.output.prompts ++
      s.reader.tokens.source.promptsToCome.map (fun prompt => prompt.text.toUTF8) =
    (Source.promptsFrom 0 false false lines).map fun prompt => prompt.text.toUTF8
  lastLine : s.reader.tokens.source.lastLine = lines.length

theorem Prompted.showPrompts (h : s.Prompted lines) {r : Reader}
    (hr : r.tokens.source.allPrompts = s.reader.tokens.source.allPrompts ∧
      r.tokens.source.lastLine = s.reader.tokens.source.lastLine) :
    { s with reader := r }.showPrompts.Prompted lines where
  prompting := h.prompting
  unlimited := unlimited_showPrompts h.unlimited
  collected := rfl
  written := by
    have hall := hr.1
    rw [Source.allPrompts, Source.allPrompts, h.collected, List.reverse_nil, List.nil_append] at hall
    rw [← h.written, ← hall, List.map_append, ← List.append_assoc]
    simp only [Session.showPrompts, h.prompting, if_true, Tokens.collectPrompts,
      Output.prompts_foldl h.unlimited]
    rfl
  lastLine := hr.2.trans h.lastLine

theorem Prompted.report (h : s.Prompted lines) (text : String) :
    { s with output := (s.output.write .answer text).2 }.Prompted lines where
  prompting := h.prompting
  unlimited := kept_unlimited.report text h.unlimited
  collected := h.collected
  written := by
    rw [Output.prompts_write_answer]
    exact h.written
  lastLine := h.lastLine

theorem Prompted.execute (h : s.Prompted lines) (statement : Statement) :
    (s.execute statement).2.Prompted lines := by
  simp only [Session.execute]
  split
  · exact { h with }
  · rename_i effect he
    have hreport := h.report effect.text
    rw [Output.write_of_unlimited h.unlimited] at hreport ⊢
    exact { hreport with }

theorem kept_prompted (lines : List String) : Kept (Prompted lines) (fun _ => True) where
  read h := h.showPrompts ((Source.steady_prompts _ _).tokens.statement ⟨rfl, rfl⟩)
  readable _ _ := trivial
  execute h _ := h.execute _
  skip h := h.showPrompts ((Source.steady_prompts _ _).tokens.skip ⟨rfl, rfl⟩)
  report text h := h.report text

theorem Prompted.prompts_eq (h : s.Prompted lines) :
    s.output.prompts = (List.range s.reader.tokens.source.asked).map fun n =>
      (Prompt.after (Source.scanned 0 false (lines.take n))).text.toUTF8 := by
  have hlast := h.lastLine
  have hall := h.written
  have hasked : s.output.prompts.length = s.reader.tokens.source.asked := by
    have hlength := congrArg List.length hall
    rw [Source.promptsFrom_eq] at hlength
    rw [Source.promptsToCome, Source.promptsFrom_eq] at hlength
    rw [Source.lastLine] at hlast
    rw [Source.asked]
    split at hlast <;> rename_i hended <;> simp [hended] at hlength ⊢ <;> omega
  have hle : s.reader.tokens.source.asked ≤ lines.length + 1 := by
    have hlength := congrArg List.length hall
    rw [Source.promptsFrom_eq, List.length_append, hasked] at hlength
    simp at hlength
    omega
  have htake := congrArg (List.take s.output.prompts.length) hall
  rw [List.take_left, hasked, Source.promptsFrom_eq, List.map_map, ← List.map_take,
    List.take_range, Nat.min_eq_left hle] at htake
  rw [htake]
  simp only [Function.comp_def, Source.promptOf_begun]

theorem prompted_new (lines : List String) (dir : String) (folder : Folder) :
    (new lines dir folder .unlimited true).Prompted lines where
  prompting := rfl
  unlimited := rfl
  collected := rfl
  written := rfl
  lastLine := by simp [new, Reader.ofLines, Tokens.ofLines, Source.ofLines, Source.lastLine]

/-- A run that shows prompts shows one for each line it asks for, and it asks for a line only when
all that it has read before has been passed. The prompt shows whether a token has been passed since
the last semicolon; so it is the one that is due unless there have been faults only. -/
theorem prompts_of_run (lines : List String) (dir : String) (folder : Folder) :
    let s := (new lines dir folder .unlimited true).run.2
    (s.output.prompts = (List.range s.reader.tokens.source.asked).map fun n =>
      (Prompt.after (Source.scanned 0 false (lines.take n))).text.toUTF8) ∧
    (∀ t : Tokens, t.waiting ≠ 0 → t.peek.2.source.prompts = t.source.prompts) ∧
    ∀ events, Prompt.after events = Prompt.due events ↔
      sinceSemicolon events = [] ∨ ∃ token : Token, .ok token ∈ sinceSemicolon events := by
  intro s
  have hs : s.Prompted lines := (kept_prompted lines).run (prompted_new lines dir folder)
  exact ⟨hs.prompts_eq, fun _ => Tokens.prompts_peek_of_waiting, Prompt.after_eq_due_iff⟩

/-- A statement that starts with a fault. The line with the rest of it is asked for as if it were
the first one of a statement. -/
theorem prompts_not_due_of_fault :
    let lines := ["#", ";"]
    (new lines "" .empty .unlimited true).run.2.output.prompts =
        [Prompt.statement, .statement, .statement].map (fun prompt => prompt.text.toUTF8) ∧
      (List.range 3).map (fun n => Prompt.due (Source.scanned 0 false (lines.take n))) =
        [.statement, .continuation, .statement] := by
  intro lines
  have hfault : Scan.line false ['#'] = ([.error (.unrecognized '#')], false) := by
    simp +decide [Scan.line, Scan.text_cons, Scan.text_nil, Scan.lexeme, Comparison.read?]
  have hsemicolon : Scan.line false [';'] = ([.ok .semicolon], false) := by
    simp +decide [Scan.line, Scan.text_cons, Scan.text_nil, Scan.lexeme]
  let fault := Fault.lexical 1 "unrecognized character '#'"
  let failed : Source := ⟨[";"], 1, [], false, false, false, []⟩
  let skipped : Source := ⟨[], 2, [], false, false, false, []⟩
  let ended : Source := ⟨[], 2, [], false, false, true, []⟩
  have hread : Reader.completeDraft .empty (Tokens.ofLines lines).flush =
      (.error fault, ⟨{ failed with prompts := [.statement] }, [], []⟩) := by
    apply Reader.completeDraft_of_answer
    simp [lines, failed, Reader.advance, Tokens.peek, Tokens.ofLines, Tokens.flush, Source.ofLines,
      Source.fill, Source.fillFrom, Source.ready, Source.enter, hfault, Source.take, Source.prompt]
    decide
  have hskip : Reader.skipTokens ⟨failed, [], []⟩ =
      ⟨{ skipped with prompts := [.statement] }, [], [⟨.semicolon, 2⟩]⟩ := by
    apply Reader.skipTokens_of_closed
    simp [failed, skipped, Reader.skipOne, Tokens.next, Tokens.peek, Tokens.advance, Source.fill,
      Source.fillFrom, Source.ready, Source.enter, hsemicolon, Source.take, Source.prompt]
  have hend : Reader.completeDraft .empty ⟨skipped, [], []⟩ =
      (.ok .exit, ⟨{ ended with prompts := [.statement] }, [⟨.endOfInput, 2⟩], []⟩) := by
    apply Reader.completeDraft_of_answer
    simp [skipped, ended, Reader.advance, Tokens.peek, Tokens.advance, Source.fill,
      Source.fillFrom, Source.ready, Source.close, Source.take, Source.prompt, Draft.step,
      Draft.start]
  have hfirst : (new lines "" .empty .unlimited true).round =
      (none, ⟨⟨⟨skipped, [], [⟨.semicolon, 2⟩]⟩, true⟩, .empty, "", .empty,
        ⟨none, [(.prompt, "> ".toUTF8), (.answer, (report fault).toUTF8),
          (.prompt, "> ".toUTF8)]⟩, true⟩) := by
    simp only [round, statement, read, Reader.statement, carryOut, new, Reader.ofLines, hread,
      showPrompts, Tokens.collectPrompts, conclude, Output.write, Output.unlimited, skip,
      Reader.skip]
    simp [failed, skipped, hskip, Except.isOk, Except.toBool, Prompt.text]
  have hlast : ∀ parts, (⟨⟨⟨skipped, [], [⟨.semicolon, 2⟩]⟩, true⟩, .empty, "", .empty,
      ⟨none, parts⟩, true⟩ : Session).round = (some (.ok ()), ⟨⟨⟨ended, [⟨.endOfInput, 2⟩], []⟩,
        true⟩, .empty, "", .empty, ⟨none, (.answer, "".toUTF8) :: (.prompt, "> ".toUTF8) :: parts⟩,
        true⟩) := by
    intro parts
    simp [round, statement, read, Reader.statement, Tokens.flush, hend, showPrompts,
      Tokens.collectPrompts]
    rfl
  constructor
  · rw [run_of_round_none hfirst, run_of_round (hlast _)]
    simp [Output.prompts, Prompt.text]
  · simp [lines, List.range_succ, Source.scanned, hfault, Lexeme.at, Prompt.due, sinceSemicolon,
      List.rtakeWhile, hsemicolon, isSemicolon]

end Session

end TableShell
