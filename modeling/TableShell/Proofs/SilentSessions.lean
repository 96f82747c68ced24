import TableShell.Proofs.LinesRead
import TableShell.Proofs.Prompts
import TableShell.Proofs.Turns

namespace TableShell

namespace Output

variable {o : Output}

def withoutPrompts (o : Output) : Output :=
  { o with parts := o.parts.filter fun part => part.1 = PartKind.answer }

theorem bytes_withoutPrompts (o : Output) : o.withoutPrompts.bytes = o.answers := rfl

theorem withoutPrompts_write_answer (h : o.room = none) (text : String) :
    (o.write .answer text).2.withoutPrompts = (o.withoutPrompts.write .answer text).2 := by
  have hsilent : o.withoutPrompts.room = none := h
  rw [write_of_unlimited h, write_of_unlimited hsilent]
  simp [withoutPrompts]

theorem withoutPrompts_write_prompt (h : o.room = none) (text : String) :
    (o.write .prompt text).2.withoutPrompts = o.withoutPrompts := by
  rw [write_of_unlimited h]
  simp [withoutPrompts]

theorem withoutPrompts_foldl (h : o.room = none) (asked : List Prompt) :
    (asked.foldl (fun output prompt => (output.write .prompt prompt.text).2) o).withoutPrompts =
      o.withoutPrompts := by
  induction asked generalizing o with
  | nil => rfl
  | cons prompt rest ih =>
    have hroom : (o.write .prompt prompt.text).2.room = none := by
      rw [write_of_unlimited h]
      exact h
    rw [List.foldl_cons, ih hroom, withoutPrompts_write_prompt h]

end Output

namespace Source

theorem unread_fillFrom {lines rest : List String} {s : Source} (h : rest = lines.drop s.line) :
    (s.fillFrom rest).unread = lines.drop (s.fillFrom rest).line := by
  induction rest generalizing s with
  | nil => by_cases hr : s.ready <;> simp [fillFrom, hr, close, ← h]
  | cons text rest ih =>
    by_cases hr : s.ready
    · simp [fillFrom, hr, ← h]
    · rw [fillFrom, if_neg hr]
      apply ih
      change rest = lines.drop (s.line + 1)
      rw [← List.drop_drop, ← h]
      rfl

theorem steady_drop (lines : List String) : Steady fun s => s.unread = lines.drop s.line := by
  intro s h
  rw [line_take, take]
  split <;> exact unread_fillFrom h

theorem steady_ended : Steady fun s => s.ended = true := by
  intro s h
  rw [fill_of_ready (by simp [ready, h]), take]
  split <;> exact h

end Source

namespace Session

variable {s s' : Session}

def silent (s : Session) : Session :=
  { s with output := s.output.withoutPrompts, prompting := false }

theorem silent_showPrompts (h : s.Unlimited) : s.showPrompts.silent = s.silent.showPrompts := by
  simp only [showPrompts, silent, Bool.false_eq_true, if_false]
  split
  · rw [Output.withoutPrompts_foldl h]
  · rfl

theorem silent_execute (h : s.Unlimited) (statement : Statement) :
    (s.execute statement).1 = (s.silent.execute statement).1 ∧
      (s.execute statement).2.silent = (s.silent.execute statement).2 := by
  have hsilent : s.silent.Unlimited := h
  cases he : (statement.effect s.dir s.database
      (s.folder.serve (statement.request s.dir s.database)).1).1 with
  | error fault =>
    rw [execute_of_effect_error he, execute_of_effect_error (s := s.silent) he]
    exact ⟨rfl, rfl⟩
  | ok effect =>
    have hfits := fun {s : Session} (hu : s.Unlimited) =>
      congrArg Prod.fst (Output.write_of_unlimited hu .answer effect.text)
    rw [execute_of_fits he (hfits h), execute_of_fits (s := s.silent) he (hfits hsilent)]
    refine ⟨rfl, ?_⟩
    simp only [silent, Output.withoutPrompts_write_answer h]

theorem paired_silent : Paired fun s s' => s' = s.silent ∧ s.Unlimited where
  read {s s'} h := by
    obtain ⟨rfl, hu⟩ := h
    exact ⟨rfl, (silent_showPrompts (s := { s with reader := s.reader.statement.2 }) hu).symm,
      kept_unlimited.read hu⟩
  execute {s s'} statement h := by
    obtain ⟨rfl, hu⟩ := h
    obtain ⟨hresult, hafter⟩ := silent_execute hu statement
    exact ⟨hresult, hafter.symm, kept_unlimited.execute hu trivial⟩
  skip {s s'} h := by
    obtain ⟨rfl, hu⟩ := h
    exact ⟨(silent_showPrompts (s := { s with reader := s.reader.skip }) hu).symm,
      kept_unlimited.skip hu⟩
  report {s s'} text h := by
    obtain ⟨rfl, hu⟩ := h
    have hsilent : s.silent.output.room = none := hu
    refine ⟨?_, ?_, kept_unlimited.report text hu⟩
    · rw [Output.write_of_unlimited hu, Output.write_of_unlimited hsilent]
    · simp only [silent, Output.withoutPrompts_write_answer hu]

def history (s : Session) (cs : List Call) : List (Except Fault Statement × Except Fault Bool) :=
  (s.turns cs).map fun t => (t.reading, t.result)

theorem Paired.history {R : Session → Session → Prop} (p : Paired R) (h : R s s')
    (cs : List Call) : s.history cs = s'.history cs := by
  rw [Session.history, Session.history, ← List.forall₂_eq_eq_eq, List.forall₂_map_left_iff,
    List.forall₂_map_right_iff]
  refine (p.turns h cs).imp fun t t' ht => ?_
  rw [ht.1, p.result ht]

namespace Prompted

variable {lines : List String}

theorem line_le (h : s.Prompted lines) : s.reader.tokens.source.line ≤ lines.length := by
  rw [← h.lastLine, Source.lastLine]
  exact Nat.le_add_right _ _

theorem line_of_ended (h : s.Prompted lines) (he : s.reader.tokens.source.ended = true) :
    s.reader.tokens.source.line = lines.length := by
  rw [← h.lastLine, Source.lastLine, if_pos he, Nat.add_zero]

theorem prompts_eq_texts (h : s.Prompted lines) :
    s.output.prompts =
      (List.range (s.reader.tokens.source.line +
        if s.reader.tokens.source.ended then 1 else 0)).map fun n =>
          (if (sinceSemicolon (Source.scanned 0 false (lines.take n))).any Except.isOk then "... "
            else "> ").toUTF8 := by
  rw [h.prompts_eq]
  apply List.map_congr_left
  intro n _
  rw [Prompt.text_after]

theorem prompts_of_ended (h : s.Prompted lines) (he : s.reader.tokens.source.ended = true)
    (cs : List Call) : (s.calls cs).output.prompts = s.output.prompts := by
  have hlater : (s.calls cs).Prompted lines :=
    (kept_prompted lines).calls (fun c _ => c.within_true) h
  have hended : (s.calls cs).reader.tokens.source.ended = true :=
    (kept_of_steady Source.steady_ended.tokens fun _ h => h).calls (fun c _ => c.within_true) he
  rw [hlater.prompts_eq, h.prompts_eq, Source.asked, Source.asked, if_pos he, if_pos hended,
    h.line_of_ended he, hlater.line_of_ended hended]

end Prompted

/-- Whatever is asked of them, a session that shows prompts and one that shows none read the same
statements, with the same results, and have the same tables and files after them. The output of the
one is that of the other once its prompts are taken out. There is one prompt for each line that has
been read and one for the end of input, after which there are no more: `... ` if there has been a
token since the last semicolon, and `> ` if there has been none. -/
theorem prompting_adds_prompts_only (source : ByteArray) (dir : String) (folder : Folder)
    (cs : List Call) :
    let lines := Text.scriptLines source
    let shown := new lines dir folder .unlimited true
    let hidden := new lines dir folder .unlimited false
    let last := (shown.calls cs).reader.tokens.source
    (shown.history cs = hidden.history cs ∧ shown.replies cs = hidden.replies cs) ∧
    (shown.calls cs).database = (hidden.calls cs).database ∧
    (shown.calls cs).folder = (hidden.calls cs).folder ∧
    ((shown.calls cs).output.withoutPrompts = (hidden.calls cs).output ∧
      (shown.calls cs).output.answers = (hidden.calls cs).output.bytes) ∧
    (last.unread = lines.drop last.line ∧ last.line ≤ lines.length ∧
      (last.ended = true → last.line = lines.length)) ∧
    ((shown.calls cs).output.prompts.length = last.line + (if last.ended then 1 else 0) ∧
      (shown.calls cs).output.prompts =
        (List.range (last.line + if last.ended then 1 else 0)).map fun n =>
          (if (sinceSemicolon (Source.scanned 0 false (lines.take n))).any Except.isOk then "... "
            else "> ").toUTF8) ∧
    ∀ later, last.ended = true →
      (shown.calls (cs ++ later)).output.prompts = (shown.calls cs).output.prompts := by
  intro lines shown hidden last
  have hstart : hidden = shown.silent ∧ shown.Unlimited := ⟨rfl, rfl⟩
  obtain ⟨hreplies, hsilent, -⟩ := paired_silent.replies hstart cs
  have hprompted : (shown.calls cs).Prompted lines :=
    (kept_prompted lines).calls (fun c _ => c.within_true) (prompted_new lines dir folder)
  have hunread : last.unread = lines.drop last.line :=
    (kept_of_steady (Source.steady_drop lines).tokens fun _ h => h).calls
      (fun c _ => c.within_true) rfl
  refine ⟨⟨paired_silent.history hstart cs, hreplies⟩, ?_, ?_, ?_,
    ⟨hunread, hprompted.line_le, hprompted.line_of_ended⟩, ⟨?_, hprompted.prompts_eq_texts⟩,
    fun later he => ?_⟩
  · rw [hsilent]
    rfl
  · rw [hsilent]
    rfl
  · rw [hsilent, ← Output.bytes_withoutPrompts]
    exact ⟨rfl, rfl⟩
  · rw [hprompted.prompts_eq_texts, List.length_map, List.length_range]
  · rw [calls, List.foldl_append]
    exact hprompted.prompts_of_ended he later

theorem prompting_adds_prompts_only_in_open_comment :
    let shown := new (Text.scriptLines "print /*".toUTF8) "" .empty .unlimited true
    (shown.calls [.statement]).reader.tokens.source.ended = true ∧
      (shown.calls [.statement]).output.prompts = ["> ".toUTF8, "... ".toUTF8] ∧
      (shown.calls [.statement, .skip, .run]).output.prompts =
        ["> ".toUTF8, "... ".toUTF8] := by
  intro shown
  have hlines : Text.scriptLines "print /*".toUTF8 = ["print /*"] := by decide +kernel
  have hopen : Scan.line false ['p', 'r', 'i', 'n', 't', ' ', '/', '*'] =
      ([.ok (.keyword .print)], true) := by
    simp +decide [Scan.line, Scan.text_cons, Scan.text_comment, Scan.lexeme, Comparison.read?]
  let begun : Source := ⟨[], 1, [], true, true, false, [.statement]⟩
  let ended : Source := ⟨[], 1, [], false, true, true, [.continuation, .statement]⟩
  let fault := Fault.lexical 1 LexicalError.unendedComment.message
  let passed : List Token := [⟨.keyword .print, 1⟩]
  have hshift : Reader.advance .empty (Tokens.ofLines ["print /*"]).flush =
      (.inl (.named .print), ⟨begun, [], passed⟩) := by
    simp [begun, passed, Reader.advance, Tokens.peek, Tokens.advance, Tokens.ofLines, Tokens.flush,
      Source.ofLines, Source.fill, Source.fillFrom, Source.ready, Source.enter, hopen, Source.take,
      Source.prompt, Draft.step, Draft.start]
  have hfault : Reader.advance (.named .print) ⟨begun, [], passed⟩ =
      (.inr (.error fault), ⟨ended, [], passed⟩) := by
    simp [begun, ended, fault, Reader.advance, Tokens.peek, Source.fill, Source.fillFrom,
      Source.ready, Source.close, Source.take, Source.prompt]
  have hread : Reader.completeDraft .empty (Tokens.ofLines ["print /*"]).flush =
      (.error fault, ⟨ended, [], passed⟩) := by
    rw [Reader.completeDraft_of_shift hshift, Reader.completeDraft_of_answer hfault]
  have hended : (shown.calls [.statement]).reader.tokens.source.ended = true := by
    simp only [shown, hlines, calls, List.foldl_cons, List.foldl_nil, call, statement, read,
      Reader.statement, carryOut, new, Reader.ofLines, hread, showPrompts, Tokens.collectPrompts]
    rfl
  obtain ⟨-, -, -, -, ⟨-, -, hline⟩, ⟨-, hprompts⟩, hlater⟩ :=
    prompting_adds_prompts_only "print /*".toUTF8 "" .empty [.statement]
  have hbytes : (shown.calls [.statement]).output.prompts = ["> ".toUTF8, "... ".toUTF8] := by
    rw [hprompts, hline hended, if_pos hended, hlines]
    simp [List.range_succ, Source.scanned, hopen, Lexeme.at, sinceSemicolon, List.rtakeWhile,
      isSemicolon, Except.isOk, Except.toBool]
  exact ⟨hended, hbytes, (hlater [.skip, .run] hended).trans hbytes⟩

end Session

end TableShell
