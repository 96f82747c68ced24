import Mathlib.Data.List.Chain
import TableShell.Proofs.ScannedText
import TableShell.Proofs.WrittenTokens

namespace TableShell

/-- What may stand between tokens: blanks, line ends among them, block comments that are closed, and
line comments with the line end after them. -/
inductive Gap : List Char → Prop
  | nothing : Gap []
  | blank {c : Char} {later : List Char} (hc : Text.isBlank c = true) (rest : Gap later) :
    Gap (c :: later)
  | block {body later : List Char} (hbody : ¬ ['*', '/'] <:+: body) (rest : Gap later) :
    Gap ('/' :: '*' :: (body ++ '*' :: '/' :: later))
  | line {mark : Char} {body later : List Char} (hmark : mark = '/' ∨ mark = '-')
      (hbody : '\n' ∉ body) (rest : Gap later) :
    Gap (mark :: mark :: (body ++ '\n' :: later))

structure Spaced where
  gap : List Char
  kind : TokenKind

/-- With nothing between them the two tokens would not be scanned as they are. -/
def TokenKind.Joins (kind next : TokenKind) : Prop :=
  kind.name?.isSome ∧ next.name?.isSome ∨
    (kind = .comparison .less ∨ kind = .comparison .greater) ∧ next = .comparison .equal

namespace Spaced

def text : List Spaced → List Char → List Char
  | [], ending => ending
  | item :: items, ending => item.gap ++ (item.kind.written ++ text items ending)

def tokens (before : List Char) : List Spaced → List Token
  | [] => []
  | item :: items =>
    ⟨item.kind, 1 + (before ++ item.gap).count '\n'⟩ ::
      tokens (before ++ item.gap ++ item.kind.written) items

def Apart (item next : Spaced) : Prop := item.kind.Joins next.kind → next.gap ≠ []

structure LaidOut (items : List Spaced) (ending : List Char) : Prop where
  writable : ∀ item ∈ items, item.kind.Writable
  gap : ∀ item ∈ items, Gap item.gap
  ending : Gap ending
  apart : items.IsChain Apart

theorem kind_tokens (before : List Char) (items : List Spaced) :
    (tokens before items).map Token.kind = items.map Spaced.kind := by
  induction items generalizing before with
  | nil => rfl
  | cons item items ih => simp [tokens, ih]

end Spaced

theorem Gap.closed {gap : List Char} (h : Gap gap) (hne : gap ≠ []) (kind : TokenKind)
    (later : List Char) : kind.Closed (gap ++ later) := by
  obtain ⟨c, rest, rfl, hword, heq⟩ : ∃ c rest, gap = c :: rest ∧
      Text.isWordChar c = false ∧ c ≠ '=' := by
    cases h with
    | nothing => exact absurd rfl hne
    | @blank c later hc =>
      refine ⟨c, later, rfl, Text.isWordChar_of_isBlank hc, ?_⟩
      rintro rfl
      exact absurd hc (by decide)
    | block => exact ⟨_, _, rfl, by decide, by decide⟩
    | line hmark =>
      obtain rfl | rfl := hmark <;> exact ⟨_, _, rfl, by decide, by decide⟩
  exact ⟨fun _ d hd => by cases hd; exact hword, fun _ => by simpa using heq⟩

namespace TokenKind

variable {kind next : TokenKind}

theorem exists_written_eq_cons (h : kind.Writable) : ∃ c rest, kind.written = c :: rest ∧
    (Text.isWordChar c = true → kind.name?.isSome) ∧ (c = '=' → kind = .comparison .equal) := by
  cases hn : kind.name? with
  | some name =>
    obtain ⟨-, hw, hname⟩ := ofWord_of_name? h hn
    obtain ⟨c, rest, hc, hletter⟩ := hname.letter_first
    refine ⟨c, rest, hw.trans hc, fun _ => rfl, ?_⟩
    rintro rfl
    exact absurd hletter (by decide)
  | none =>
    cases kind with
    | literal value =>
      exact ⟨_, _, rfl, fun hc => absurd hc (by decide), fun hc => absurd hc (by decide)⟩
    | comparison comparison => cases comparison <;> exact ⟨_, _, rfl, by decide, by decide⟩
    | keyword | identifier => cases hn
    | leftParen | rightParen | comma | semicolon => exact ⟨_, _, rfl, by decide, by decide⟩
    | endOfInput => cases h

theorem closed_of_not_joins (h : next.Writable) (hj : ¬ kind.Joins next) (later : List Char) :
    kind.Closed (next.written ++ later) := by
  obtain ⟨c, rest, hc, hword, heq⟩ := exists_written_eq_cons h
  rw [hc]
  constructor
  · intro hkind d hd
    cases hd
    rw [Bool.eq_false_iff]
    exact fun hc => hj (.inl ⟨hkind, hword hc⟩)
  · intro hkind hd
    cases hd
    exact hj (.inr ⟨hkind, heq rfl⟩)

theorem Closed.of_isPrefix {line later : List Char} (h : kind.Closed later) (hp : line <+: later) :
    kind.Closed line := by
  have hhead : ∀ c, line.head? = some c → later.head? = some c := by
    obtain ⟨rest, rfl⟩ := hp
    intro c hc
    rw [List.head?_append, hc, Option.some_or]
  exact ⟨fun hk c hc => h.word hk c (hhead c hc), fun hk hc => h.comparison hk (hhead _ hc)⟩

end TokenKind

namespace Spaced.LaidOut

variable {item : Spaced} {items : List Spaced} {ending : List Char}

theorem tail (h : LaidOut (item :: items) ending) : LaidOut items ending where
  writable next hm := h.writable next (List.mem_cons_of_mem item hm)
  gap next hm := h.gap next (List.mem_cons_of_mem item hm)
  ending := h.ending
  apart := h.apart.tail

theorem closed (h : LaidOut (item :: items) ending) : item.kind.Closed (text items ending) := by
  cases items with
  | nil =>
    by_cases hne : ending = []
    · rw [hne, text]
      exact ⟨fun _ _ hc => (by cases hc), fun _ => by simp⟩
    · simpa [text] using h.ending.closed hne item.kind []
  | cons next items =>
    have hnext : next ∈ item :: next :: items := by simp
    by_cases hne : next.gap = []
    · have hj : ¬ item.kind.Joins next.kind := fun hj => (List.isChain_cons_cons.mp h.apart).1 hj hne
      rw [text, hne, List.nil_append]
      exact TokenKind.closed_of_not_joins (h.writable next hnext) hj _
    · exact (h.gap next hnext).closed hne item.kind _

end Spaced.LaidOut

namespace Source

variable {number : Nat} {later : List Char}

theorem eventsOf_written {kind : TokenKind} (h : kind.Writable) (hclosed : kind.Closed later) :
    eventsOf number false (kind.written ++ later) =
      .ok ⟨kind, number + 1⟩ :: eventsOf number false later := by
  have hevents : eventsOf number false (kind.written ++ later) =
      [.ok kind].map (Lexeme.at (number + 1)) ++ eventsOf number false later :=
    eventsOf_append (TokenKind.lineFeed_not_mem_written h) (TokenKind.return_not_last_written h)
      fun line hp => Scan.text_written h (hclosed.of_isPrefix hp)
  exact hevents

theorem eventsOf_comment (number : Nat) {body : List Char} (h : ¬ ['*', '/'] <:+: body) :
    eventsOf number true (body ++ '*' :: '/' :: later) =
      eventsOf (number + body.count '\n') false later := by
  induction body generalizing number with
  | nil =>
    have hclose : eventsOf number true (['*', '/'] ++ later) = eventsOf number false later :=
      eventsOf_mark (by decide) (by decide) fun line _ => Scan.line_close line
    exact hclose
  | cons c body ih =>
    have hbody : ¬ ['*', '/'] <:+: body := fun hm => h (List.infix_cons hm)
    by_cases hc : c = '\n'
    · rw [hc, List.cons_append, eventsOf_lineFeed, ih _ hbody, List.count_cons_self]
      congr 1
      omega
    · rw [List.cons_append, List.count_cons_of_ne hc, ← ih _ hbody]
      refine eventsOf_pass hc fun line hp => Scan.line_cons ?_
      rintro rfl hhead
      -- The slash after this star stands in the comment, or else it is the star of the end.
      obtain ⟨rest, hrest⟩ := hp
      cases body with
      | nil => cases line <;> simp_all
      | cons d body =>
        obtain ⟨line, rfl⟩ : ∃ later, line = '/' :: later := List.head?_eq_some_iff.mp hhead
        obtain rfl : '/' = d := by simpa using congrArg List.head? hrest
        exact h ⟨[], body, rfl⟩

theorem eventsOf_lineComment {mark : Char} {body : List Char} (hmark : mark = '/' ∨ mark = '-')
    (hbody : '\n' ∉ body) :
    eventsOf number false (mark :: mark :: body ++ '\n' :: later) =
      eventsOf (number + 1) false later := by
  have hmarked : '\n' ∉ mark :: mark :: body := by
    obtain rfl | rfl := hmark <;> simpa using hbody
  have hs : (mark :: mark :: body ++ '\n' :: later).splitOn '\n' =
      (mark :: mark :: body) :: later.splitOn '\n' := by
    rw [Text.splitOn_append_of_not_mem hmarked, List.splitOn_cons_eq_if_modifyHead]
    simp
  have hkept : ∀ c, [mark, mark].getLast? = some c → (c == '\r') = false := by
    intro c hc
    cases hc
    obtain rfl | rfl := hmark <;> rfl
  have hdrop : Text.dropEndWhile (· == '\r') (mark :: mark :: body) =
      mark :: mark :: Text.dropEndWhile (· == '\r') body := Text.dropEndWhile_append hkept body
  rw [eventsOf_cons hs, hdrop]
  simp [Scan.line, Scan.text_mark hmark, eventsOf]

theorem eventsOf_gap (number : Nat) {gap : List Char} (h : Gap gap) :
    eventsOf number false (gap ++ later) = eventsOf (number + gap.count '\n') false later := by
  induction h generalizing number with
  | nothing => rfl
  | @blank c rest hc _ ih =>
    by_cases hn : c = '\n'
    · rw [hn, List.cons_append, eventsOf_lineFeed, ih, List.count_cons_self]
      congr 1
      omega
    · rw [List.cons_append, List.count_cons_of_ne hn, ← ih]
      exact eventsOf_pass hn fun line _ => Scan.text_blank hc line
  | @block body rest hbody _ ih =>
    have hopen : eventsOf number false (['/', '*'] ++ (body ++ '*' :: '/' :: (rest ++ later))) =
        eventsOf number true (body ++ '*' :: '/' :: (rest ++ later)) :=
      eventsOf_mark (by decide) (by decide) fun line _ => Scan.text_comment line
    have hcount : ('/' :: '*' :: (body ++ '*' :: '/' :: rest)).count '\n' =
        body.count '\n' + rest.count '\n' := by simp
    rw [hcount, ← Nat.add_assoc, ← ih, ← eventsOf_comment number hbody, ← hopen]
    simp
  | @line mark body rest hmark hbody _ ih =>
    have hcount : (mark :: mark :: (body ++ '\n' :: rest)).count '\n' = 1 + rest.count '\n' := by
      have hzero := List.count_eq_zero_of_not_mem hbody
      obtain rfl | rfl := hmark <;> simp [hzero, Nat.add_comm]
    rw [hcount, ← Nat.add_assoc, ← ih, ← eventsOf_lineComment hmark hbody]
    simp

variable {items : List Spaced} {ending : List Char}

theorem eventsOf_laidOut (h : Spaced.LaidOut items ending) (before : List Char) :
    eventsOf (before.count '\n') false (Spaced.text items ending) =
      (Spaced.tokens before items).map .ok := by
  induction items generalizing before with
  | nil =>
    have hending : eventsOf (before.count '\n') false (ending ++ []) = _ := eventsOf_gap _ h.ending
    rwa [List.append_nil, eventsOf_nil] at hending
  | cons item items ih =>
    have hwritable := h.writable item List.mem_cons_self
    have hgap : before.count '\n' + item.gap.count '\n' = (before ++ item.gap).count '\n' :=
      List.count_append.symm
    have hlines : (before ++ item.gap ++ item.kind.written).count '\n' =
        (before ++ item.gap).count '\n' := by
      rw [List.count_append,
        List.count_eq_zero_of_not_mem (TokenKind.lineFeed_not_mem_written hwritable), Nat.add_zero]
    rw [Spaced.text, eventsOf_gap _ (h.gap item List.mem_cons_self), hgap,
      eventsOf_written hwritable h.closed, ← hlines, ih h.tail, hlines, Nat.add_comm,
      Spaced.tokens, List.map_cons]

end Source

namespace Tokens

theorem events_laidOut {items : List Spaced} {ending : List Char}
    (h : Spaced.LaidOut items ending) :
    let lines := Text.scriptLines (String.ofList (Spaced.text items ending)).toUTF8
    (ofLines lines).events =
      (Spaced.tokens [] items).map .ok ++ [.ok ⟨.endOfInput, lines.length⟩] := by
  intro lines
  have hevents : Source.eventsFrom 0 false lines = (Spaced.tokens [] items).map .ok := by
    have htext := Source.eventsOf_laidOut h []
    rw [← htext]
    refine Source.eventsFrom_scriptLines fun fault hm => ?_
    rw [← List.count_nil (a := '\n'), htext] at hm
    simp at hm
  have hlast : (Source.ofLines lines).lastLine = lines.length := by
    simp [Source.lastLine, Source.ofLines]
  rw [events, ofLines, List.map_nil, List.nil_append, Source.upcoming_ofLines, hlast,
    upToEnd_of_endless (Source.endless_eventsFrom 0 false lines) rfl, hevents]

/-- Tokens that are laid out are read as these tokens, and then there is the end of input. -/
theorem drain_laidOut {items : List Spaced} {ending : List Char}
    (h : Spaced.LaidOut items ending) :
    let lines := Text.scriptLines (String.ofList (Spaced.text items ending)).toUTF8
    (ofLines lines).drain.1 =
      (Spaced.tokens [] items).map .ok ++ [.ok ⟨.endOfInput, lines.length⟩] := by
  intro lines
  rw [drain_eq_events]
  exact events_laidOut h

theorem drain_laidOut_of_comments :
    let items : List Spaced := [⟨[], .keyword .print⟩,
      ⟨"/* a\n' // b */ ".toList, .identifier "t"⟩, ⟨" ".toList, .comparison .less⟩,
      ⟨"\r\n".toList, .comparison .equal⟩, ⟨[], .literal "/* ; --"⟩, ⟨[], .semicolon⟩]
    let ending := " // /* c\n-- '\n".toList
    let text := String.ofList (Spaced.text items ending)
    text = "print/* a\n' // b */ t <\r\n='/* ; --'; // /* c\n-- '\n" ∧
      Spaced.LaidOut items ending ∧
      (ofLines (Text.scriptLines text.toUTF8)).drain.1 =
        [.ok ⟨.keyword .print, 1⟩, .ok ⟨.identifier "t", 2⟩, .ok ⟨.comparison .less, 2⟩,
          .ok ⟨.comparison .equal, 3⟩, .ok ⟨.literal "/* ; --", 3⟩, .ok ⟨.semicolon, 3⟩,
          .ok ⟨.endOfInput, 4⟩] := by
  intro items ending text
  have hname : IsName "t" := ⟨by decide, 't', [], rfl, by decide⟩
  have hvalue : Enclosable "/* ; --" := ⟨⟨by decide, by decide⟩, by decide⟩
  have hkeyword : Keyword.ofText? "t" = none := by decide
  have hcomment : Gap "/* a\n' // b */ ".toList :=
    @Gap.block " a\n' // b ".toList _ (by decide +kernel) (.blank (by decide) .nothing)
  have hbreak : Gap "\r\n".toList := .blank (by decide) (.blank (by decide) .nothing)
  have hending : Gap ending :=
    .blank (by decide) (@Gap.line '/' " /* c".toList _ (.inl rfl) (by decide)
      (@Gap.line '-' " '".toList _ (.inr rfl) (by decide) .nothing))
  have h : Spaced.LaidOut items ending := {
    writable := by simp [items, TokenKind.Writable, hname, hvalue, hkeyword]
    gap := by
      simp only [items, List.forall_mem_cons]
      exact ⟨.nothing, hcomment, .blank (by decide) .nothing, hbreak, .nothing, .nothing,
        fun _ hm => absurd hm List.not_mem_nil⟩
    ending := hending
    apart := by simp [items, Spaced.Apart, TokenKind.Joins, TokenKind.name?] }
  have hlines : (Text.scriptLines text.toUTF8).length = 4 := by decide +kernel
  refine ⟨by decide +kernel, h, ?_⟩
  rw [drain_laidOut h, hlines]
  rfl

end Tokens

end TableShell
