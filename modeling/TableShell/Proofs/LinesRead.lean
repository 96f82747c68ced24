import TableShell.Proofs.UnreadLines

namespace TableShell

namespace Text

theorem decodeLines_append (lines later : List (List UInt8)) :
    ∃ texts, decodeLines (lines ++ later) = decodeLines lines ++ texts ∧
      (texts = [] ∨ (decodeLines lines).length = lines.length) := by
  induction lines with
  | nil => exact ⟨decodeLines later, rfl, .inr rfl⟩
  | cons line rest ih =>
    obtain ⟨texts, ht, hall⟩ := ih
    rw [List.cons_append, decodeLines, decodeLines]
    cases decode? line with
    | none => exact ⟨[], rfl, .inl rfl⟩
    | some text =>
      refine ⟨texts, by rw [ht, List.cons_append], hall.imp_right fun hlength => ?_⟩
      rw [List.length_cons, hlength, List.length_cons]

theorem length_decodeLines_le_length (lines : List (List UInt8)) :
    (decodeLines lines).length ≤ lines.length := by
  induction lines with
  | nil => exact Nat.le_refl 0
  | cons line rest ih =>
    rw [decodeLines]
    split
    · exact Nat.succ_le_succ ih
    · exact Nat.zero_le _

/-- Bytes after the last line end are more lines, and these follow the lines of all bytes before if
those are valid UTF-8. -/
theorem exists_scriptLines_append {first : List UInt8} (hend : first.getLast? = some 10)
    (rest : List UInt8) :
    ∃ later, scriptLines ⟨(first ++ rest).toArray⟩ = scriptLines ⟨first.toArray⟩ ++ later ∧
      (later = [] ∨ (scriptLines ⟨first.toArray⟩).length = first.count 10) ∧
      (scriptLines ⟨first.toArray⟩).length ≤ first.count 10 := by
  obtain ⟨body, rfl⟩ := List.getLast?_eq_some_iff.mp hend
  obtain ⟨piece, pieces', hrest⟩ := exists_splitOn_eq_cons 10 rest
  have hall : pieces ⟨(body ++ [10] ++ rest).toArray⟩ = body.splitOn 10 ++ rest.splitOn 10 := by
    rw [pieces, List.append_assoc]
    exact splitOn_append_cons 10 body rest
  have hfirst : pieces ⟨(body ++ [10]).toArray⟩ = body.splitOn 10 ++ [[]] := by
    exact splitOn_append_cons 10 body []
  have hlines : scriptLines ⟨(body ++ [10]).toArray⟩ =
      (decodeLines (body.splitOn 10)).map dropReturns := by
    rw [scriptLines, unended, hfirst]
    simp [Option.filter]
  have hlength : (body.splitOn 10).length = (body ++ [10]).count 10 := by
    rw [length_splitOn, List.count_append]
    rfl
  have hle := length_decodeLines_le_length (body.splitOn 10)
  obtain ⟨texts, ht, hvalid⟩ := decodeLines_append (body.splitOn 10)
    ((rest.splitOn 10).dropLast ++ unended ⟨(body ++ [10] ++ rest).toArray⟩)
  refine ⟨texts.map dropReturns, ?_, ?_, ?_⟩
  · rw [hlines, ← List.map_append, ← ht, scriptLines, hall,
      List.dropLast_append_of_ne_nil (by simp [hrest]), List.append_assoc]
  · rw [hlines, List.length_map, ← hlength]
    exact hvalid.imp_left fun hnil => by rw [hnil, List.map_nil]
  · rw [hlines, List.length_map, ← hlength]
    exact hle

end Text

namespace Source

theorem lt_line_of_mem_eventsFrom {number : Nat} {inComment : Bool} {lines : List String}
    {token : Token} (h : .ok token ∈ eventsFrom number inComment lines) : number < token.line := by
  induction lines generalizing number inComment with
  | nil =>
    rw [eventsFrom] at h
    split at h <;> simp [Lexeme.at] at h
  | cons text rest ih =>
    rw [eventsFrom] at h
    obtain hm | hm := List.mem_append.mp h
    · obtain ⟨lexeme, -, he⟩ := List.mem_map.mp hm
      cases lexeme with
      | error e => cases he
      | ok kind =>
        cases he
        exact Nat.lt_succ_self number
    · exact Nat.lt_of_succ_lt (ih hm)

theorem eventsFrom_append (number : Nat) (inComment : Bool) (lines : List String) :
    ∃ opened, ∀ later, eventsFrom number inComment (lines ++ later) =
      scanned number inComment lines ++ eventsFrom (number + lines.length) opened later := by
  induction lines generalizing number inComment with
  | nil => exact ⟨inComment, fun later => rfl⟩
  | cons text rest ih =>
    obtain ⟨opened, hrest⟩ := ih (number + 1) (Scan.line inComment text.toList).2
    refine ⟨opened, fun later => ?_⟩
    rw [List.cons_append, eventsFrom, hrest, scanned, List.append_assoc, List.length_cons,
      Nat.add_right_comm, Nat.add_assoc]

theorem line_le_fillFrom (s : Source) (lines : List String) : s.line ≤ (s.fillFrom lines).line := by
  induction lines generalizing s with
  | nil => by_cases h : s.ready <;> simp [fillFrom, h, close]
  | cons text rest ih =>
    by_cases h : s.ready
    · simp [fillFrom, h]
    · rw [fillFrom, if_neg h]
      exact Nat.le_of_succ_le (ih (s.enter text))

theorem line_take (s : Source) : s.take.2.line = s.line := by
  rw [take]
  split <;> rfl

theorem line_of_take {s : Source} {token : Token} (h : s.take.1 = .ok token) :
    token.line = s.line := by
  rw [take] at h
  split at h <;> cases h <;> rfl

theorem steady_lastLine (last : Nat) : Steady fun s => s.lastLine = last := by
  rintro s rfl
  exact lastLine_take_fill s

theorem steady_unread : Steady fun s => s.ended = true → s.unread = [] := by
  have hfill : ∀ (s : Source) (lines : List String), s.ended = false →
      (s.fillFrom lines).ended = true → (s.fillFrom lines).unread = [] := by
    intro s lines
    induction lines generalizing s with
    | nil => by_cases hr : s.ready <;> simp [fillFrom, hr]
    | cons text rest ih =>
      intro hs
      by_cases hr : s.ready
      · simp [fillFrom, hr, hs]
      · rw [fillFrom, if_neg hr]
        exact ih (s.enter text) hs
  intro s h
  have hfilled : s.fill.ended = true → s.fill.unread = [] := by
    cases hs : s.ended with
    | false => exact hfill s s.unread hs
    | true =>
      rw [fill_of_ready (by simp [ready, hs])]
      exact h
  rw [take]
  split <;> exact hfilled

end Source

namespace Tokens

variable {t : Tokens}

/-- Of these events, those gone and those looked at stand on lines that have been read. -/
structure Behind (all : List Event) (t : Tokens) : Prop where
  gone : ∃ gone, all = gone ++ t.events ∧ ∀ token, .ok token ∈ gone → token.line ≤ t.line
  ahead : ∀ token ∈ t.lookahead, token.line ≤ t.line

theorem line_le_peek (t : Tokens) : t.line ≤ t.peek.2.line := by
  have hfill := Source.line_le_fillFrom t.source t.source.unread
  cases hl : t.lookahead with
  | cons token rest => rw [peek, hl]
  | nil =>
    rw [peek_of_nil hl]
    exact Nat.le_trans hfill (Nat.le_of_eq (Source.line_take t.source.fill).symm)

theorem ahead_peek (h : ∀ token ∈ t.lookahead, token.line ≤ t.line) :
    ∀ token ∈ t.peek.2.lookahead, token.line ≤ t.peek.2.line := by
  cases hl : t.lookahead with
  | cons token rest =>
    rw [peek, hl]
    exact h
  | nil =>
    rw [peek_of_nil hl]
    intro token hm
    have htaken : t.source.fill.take.1 = .ok token := by
      cases he : t.source.fill.take.1 with
      | error fault => simp [he, token?] at hm
      | ok taken =>
        rw [he] at hm
        rw [List.mem_singleton.mp hm]
    rw [Source.line_of_take htaken]
    exact Nat.le_of_eq (Source.line_take t.source.fill).symm

theorem exists_gone_concat {all events : List Event} {event : Event} {line : Nat}
    (h : ∃ gone, all = gone ++ event :: events ∧ ∀ token, .ok token ∈ gone → token.line ≤ line)
    (hevent : ∀ token, event = .ok token → token.line ≤ line) :
    ∃ gone, all = gone ++ events ∧ ∀ token, .ok token ∈ gone → token.line ≤ line := by
  obtain ⟨gone, hall, hgone⟩ := h
  refine ⟨gone ++ [event], by rw [hall, List.append_assoc]; rfl, fun token hm => ?_⟩
  obtain hm | hm := List.mem_append.mp hm
  · exact hgone token hm
  · exact hevent token (List.mem_singleton.mp hm).symm

theorem Behind.peek {all : List Event} (h : t.Behind all) : t.peek.2.Behind all := by
  obtain ⟨gone, hall, hgone⟩ := h.gone
  have hgone : ∀ token, .ok token ∈ gone → token.line ≤ t.peek.2.line :=
    fun token hm => Nat.le_trans (hgone token hm) t.line_le_peek
  refine ⟨?_, ahead_peek h.ahead⟩
  cases hp : t.peek with
  | mk event peeked =>
    rw [hp] at hgone
    cases event with
    | ok token =>
      rw [← events_of_peek_ok hp] at hall
      exact ⟨gone, hall, hgone⟩
    | error fault =>
      rw [events_of_peek_error hp] at hall
      exact exists_gone_concat ⟨gone, hall, hgone⟩ fun token he => by cases he

theorem Behind.advance {all : List Event} (h : t.Behind all) : t.advance.Behind all := by
  cases hl : t.lookahead with
  | nil =>
    rw [Tokens.advance, hl]
    exact h
  | cons token rest =>
    have hhead := events_of_head (t := t) (by rw [hl]; rfl)
    by_cases hk : token.kind = .endOfInput
    · rw [if_pos hk] at hhead
      rw [hhead.2]
      exact h
    · rw [if_neg hk] at hhead
      have hpassed : t.advance = { t with lookahead := rest, passed := token :: t.passed } := by
        simp [Tokens.advance, hl, hk]
      have hgone := h.gone
      have hahead := h.ahead
      rw [hl, List.forall_mem_cons] at hahead
      rw [hhead] at hgone
      rw [hpassed] at hgone ⊢
      refine ⟨exists_gone_concat hgone fun passed he => ?_, hahead.2⟩
      cases he
      exact hahead.1

theorem steady_behind (all : List Event) : Steady (Behind all) where
  peek h := h.peek
  advance h := h.advance
  flush h := ⟨h.gone, h.ahead⟩

end Tokens

namespace Session

/-- What reading keeps, a session keeps if it does not depend on the prompts to be shown. -/
theorem kept_of_steady {P : Tokens → Prop} (hP : Tokens.Steady P)
    (hshow : ∀ t, P t → P t.collectPrompts.2) :
    Kept (fun s => P s.reader.tokens) (fun _ => True) where
  read h := hshow _ (hP.statement h)
  readable _ _ := trivial
  execute {s statement} h _ := by
    rw [reader_execute]
    exact h
  skip h := hshow _ (hP.skip h)
  report _ h := h

variable {lines later : List String} {dir : String} {folder : Folder} {output : Output}
  {prompting : Bool} {token : Token} {n : Nat}

theorem semicolon_of_append
    (h : ((new (lines ++ later) dir folder output prompting).events.filter isSemicolon)[n]? =
      some (.ok token)) (hline : token.line ≤ lines.length) :
    ((new lines dir folder output prompting).events.filter isSemicolon)[n]? = some (.ok token) := by
  have hevents : ∀ lines, (new lines dir folder output prompting).events.filter isSemicolon =
      (Source.eventsFrom 0 false lines).filter isSemicolon := by
    intro lines
    rw [events_new]
    simp [isSemicolon]
  obtain ⟨opened, hall⟩ := Source.eventsFrom_append 0 false lines
  have hnone := hall []
  rw [List.append_nil] at hnone
  rw [hevents, hall, List.filter_append] at h
  rw [hevents, hnone, List.filter_append]
  by_cases hn : n < ((Source.scanned 0 false lines).filter isSemicolon).length
  · rw [List.getElem?_append_left hn] at h ⊢
    exact h
  · rw [List.getElem?_append_right (Nat.le_of_not_lt hn)] at h
    have hm := List.mem_of_mem_filter (List.mem_of_getElem? h)
    have hlate := Source.lt_line_of_mem_eventsFrom hm
    omega

theorem semicolon_of_followedBy
    (h : (((new lines dir folder output prompting).followedBy later).events.filter
      isSemicolon)[n]? = some (.ok token))
    (hcase : later = [] ∨ lines.length = token.line) :
    ((new lines dir folder output prompting).events.filter isSemicolon)[n]? = some (.ok token) := by
  obtain rfl | hlength := hcase
  · simpa [followedBy, Reader.followedBy, Tokens.followedBy, Source.followedBy] using h
  · have hboth : ((new (lines ++ later) dir folder output prompting).events.filter
        isSemicolon)[n]? = some (.ok token) := h
    exact semicolon_of_append hboth (Nat.le_of_eq hlength.symm)

/-- The lines of some bytes that end with a line feed are read before those of any bytes after them.
They are fewer than the line feeds only when one of them cannot be read, and then no line follows. -/
theorem exists_new_append {first : List UInt8} (hend : first.getLast? = some 10) (dir : String)
    (folder : Folder) (output : Output) (prompting : Bool) (bytes : List UInt8) :
    let lines := Text.scriptLines ⟨first.toArray⟩
    ∃ later, new (Text.scriptLines ⟨(first ++ bytes).toArray⟩) dir folder output prompting =
        (new lines dir folder output prompting).followedBy later ∧
      (later = [] ∨ lines.length = first.count 10) ∧ lines.length ≤ first.count 10 := by
  intro lines
  obtain ⟨later, hl, hcase⟩ := Text.exists_scriptLines_append hend bytes
  refine ⟨later, ?_, hcase⟩
  rw [hl]
  rfl

theorem line_le_attempts
    (h : ((new lines dir folder output prompting).events.filter isSemicolon)[n]? =
      some (.ok token)) :
    token.line ≤
      (attempts (n + 1) (new lines dir folder output prompting)).2.reader.tokens.line := by
  have hbehind : (new lines dir folder output prompting).reader.tokens.Behind
      (new lines dir folder output prompting).events :=
    ⟨⟨[], events_eq _, fun _ hm => absurd hm List.not_mem_nil⟩,
      fun _ hm => absurd hm List.not_mem_nil⟩
  generalize new lines dir folder output prompting = s at h hbehind ⊢
  have hkept := kept_of_steady (Tokens.steady_behind s.events) fun t ht => ⟨ht.gone, ht.ahead⟩
  obtain ⟨gone, hall, hgone⟩ := (hkept.attempts (n + 1) hbehind).gone
  have hleft := Ended.countP_remaining s.ended_events (n + 1)
  rw [← events_attempts, events_eq] at hleft
  have hlength : n < (s.events.filter isSemicolon).length := (List.getElem?_eq_some_iff.mp h).1
  rw [← List.countP_eq_length_filter] at hlength
  have hcount : n < (gone.filter isSemicolon).length := by
    rw [← List.countP_eq_length_filter]
    have hsum := congrArg (List.countP isSemicolon) hall
    rw [List.countP_append, hleft] at hsum
    omega
  rw [hall, List.filter_append, List.getElem?_append_left hcount] at h
  exact hgone token (List.mem_of_mem_filter (List.mem_of_getElem? h))

theorem not_ended_attempts
    (h : n ≤ (new lines dir folder output prompting).events.countP isSemicolon) :
    (attempts n (new lines dir folder output prompting)).2.reader.tokens.source.ended = false := by
  have hkept := kept_of_steady Source.steady_unread.tokens fun t ht => ht
  have hmore := hkept.attempts (s := new (lines ++ [""]) dir folder output prompting) n
    fun he => by cases he
  -- If the end had been met, one line more would have been read before it.
  have hsame := attempts_followedBy h [""]
  change attempts n (new (lines ++ [""]) dir folder output prompting) = _ at hsame
  rw [hsame] at hmore
  refine Bool.eq_false_iff.mpr fun he => ?_
  exact absurd (hmore he) (by simp [followedBy, Reader.followedBy, Tokens.followedBy,
    Source.followedBy])

/-- When the semicolon with number `n` stands on the last of the lines in `first`, the statements up
to it are carried out once these lines have been read and before another one is asked for. So their
results, what they write with all prompts, the tables and the files are the same whatever follows
these lines. -/
theorem attempts_of_same_lines (first rest : List UInt8) (dir : String) (folder : Folder)
    (output : Output) (prompting : Bool) (n : Nat) (hend : first.getLast? = some 10) :
    let session := fun bytes : List UInt8 =>
      new (Text.scriptLines ⟨(first ++ bytes).toArray⟩) dir folder output prompting
    ((session rest).events.filter isSemicolon)[n]? = some (.ok ⟨.semicolon, first.count 10⟩) →
      ((attempts (n + 1) (session rest)).2.reader.tokens.line = first.count 10 ∧
        (attempts (n + 1) (session rest)).2.reader.tokens.source.ended = false) ∧
      ∀ (other : List UInt8), ∀ m ≤ n + 1,
        (attempts m (session other)).1 = (attempts m (session rest)).1 ∧
        (attempts m (session other)).2.output = (attempts m (session rest)).2.output ∧
        (attempts m (session other)).2.database = (attempts m (session rest)).2.database ∧
        (attempts m (session other)).2.folder = (attempts m (session rest)).2.folder := by
  intro session hsemicolon
  let lines := Text.scriptLines ⟨first.toArray⟩
  let s := new lines dir folder output prompting
  have hlater := exists_new_append hend dir folder output prompting
  obtain ⟨later, hrest, hcase, hle⟩ := hlater rest
  have hfirst : (s.events.filter isSemicolon)[n]? = some (.ok ⟨.semicolon, first.count 10⟩) := by
    simp only [session, hrest] at hsemicolon
    exact semicolon_of_followedBy hsemicolon hcase
  have hcount : n + 1 ≤ s.events.countP isSemicolon := by
    rw [List.countP_eq_length_filter]
    exact (List.getElem?_eq_some_iff.mp hfirst).1
  simp only [session, hrest]
  refine ⟨?_, fun other m hm => ?_⟩
  · have hlast := kept_of_steady (Source.steady_lastLine lines.length).tokens fun t ht => ht
    have hlines := hlast.attempts (s := s) (n + 1) (by
      simp [s, new, Reader.ofLines, Tokens.ofLines, Source.ofLines, Source.lastLine])
    have hended : (attempts (n + 1) s).2.reader.tokens.source.ended = false :=
      not_ended_attempts hcount
    have hge : first.count 10 ≤ (attempts (n + 1) s).2.reader.tokens.line :=
      line_le_attempts hfirst
    rw [Source.lastLine] at hlines
    rw [attempts_followedBy hcount]
    refine ⟨Nat.le_antisymm ?_ hge, hended⟩
    exact Nat.le_trans (Nat.le_of_add_right_le (Nat.le_of_eq hlines)) hle
  · obtain ⟨later', hother, -⟩ := hlater other
    have hm := Nat.le_trans hm hcount
    rw [hother, attempts_followedBy hm, attempts_followedBy hm]
    exact ⟨rfl, rfl, rfl, rfl⟩

/-- A statement on the first line, before a line that is not valid UTF-8 or a comment that is never
closed. -/
theorem attempts_of_same_lines_before_faults :
    let first := "print t;\n".toUTF8.data.toList
    let session := fun bytes : List UInt8 =>
      new (Text.scriptLines ⟨(first ++ bytes).toArray⟩) "" .empty .unlimited true
    let comment := "/*".toUTF8.data.toList
    first.getLast? = some 10 ∧
      ((session [255]).events.filter isSemicolon)[0]? = some (.ok ⟨.semicolon, first.count 10⟩) ∧
      (attempts 1 (session [255])).2.reader.tokens.line = 1 ∧
      (attempts 1 (session comment)).1 = (attempts 1 (session [255])).1 ∧
      (attempts 1 (session comment)).2.output = (attempts 1 (session [255])).2.output := by
  intro first session comment
  have hend : first.getLast? = some 10 := by decide
  have hlines : Text.scriptLines ⟨(first ++ [255]).toArray⟩ = ["print t;"] := by decide
  have hsemicolon : ((session [255]).events.filter isSemicolon)[0]? =
      some (.ok ⟨.semicolon, first.count 10⟩) := by
    have hcount : first.count 10 = 1 := by decide
    simp only [session]
    rw [hlines, events_new, hcount]
    simp +decide [Source.eventsFrom, Scan.line, Scan.text_nil, Scan.text_cons, Scan.lexeme,
      Comparison.read?, Lexeme.at, isSemicolon]
  obtain ⟨⟨hline, -⟩, hsame⟩ :=
    attempts_of_same_lines first [255] "" .empty .unlimited true 0 hend hsemicolon
  obtain ⟨hresults, houtput, -⟩ := hsame comment 1 (Nat.le_refl 1)
  exact ⟨hend, hsemicolon, hline, hresults, houtput⟩

end Session

end TableShell
