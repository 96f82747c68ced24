import TableShell.Proofs.Layout
import TableShell.Proofs.SentencesRead

namespace TableShell

open Grammar

structure IsValue (value : String) : Prop extends Enclosable value where
  trimmed : Text.trim value = value

theorem Enclosable.isValue_trim {value : String} (h : Enclosable value) :
    IsValue (Text.trim value) where
  no_comma hm := h.no_comma (Text.subset_trim value hm)
  no_lineFeed hm := h.no_lineFeed (Text.subset_trim value hm)
  no_quote hm := h.no_quote (Text.subset_trim value hm)
  trimmed := Text.trim_trim value

/-- A statement that a script can make. -/
structure Statement.WellFormed (statement : Statement) : Prop where
  complete : statement.Complete
  names : ∀ name, .name name ∈ statement.words → IsName name
  values : ∀ value, .literal value ∈ statement.words → IsValue value

namespace Word

/-- The token that a word is written as, with this keyword to leave. -/
def kind (leave : Keyword) : Word → TokenKind
  | fixed kind => kind
  | name n => .ofWord n
  | literal value => .literal value
  | .leave => .keyword leave

def text (leave : Keyword) : Word → String
  | fixed kind => kind.text
  | name n => n
  | literal value => "'" ++ value ++ "'"
  | .leave => leave.text

end Word

def Statement.text (leave : Keyword) (statement : Statement) : String :=
  " ".intercalate (statement.words.map (Word.text leave))

def TokenKind.IsSign : TokenKind → Prop
  | identifier _ | literal _ | endOfInput => False
  | _ => True

namespace Word

def Signs (ws : List Word) : Prop := ∀ kind, .fixed kind ∈ ws → kind.IsSign

variable {w : Word} {ws vs : List Word} {kinds : List TokenKind} {separator : TokenKind}

@[simp]
theorem signs_nil : Signs [] := fun _ hm => absurd hm List.not_mem_nil

@[simp]
theorem signs_append : Signs (ws ++ vs) ↔ Signs ws ∧ Signs vs := by
  simp only [Signs, List.mem_append, or_imp, forall_and]

@[simp]
theorem signs_fixed {kind : TokenKind} : Signs (.fixed kind :: ws) ↔ kind.IsSign ∧ Signs ws := by
  simp [Signs, or_imp, forall_and]

@[simp]
theorem signs_name {n : String} : Signs (name n :: ws) ↔ Signs ws := by simp [Signs]

@[simp]
theorem signs_literal {value : String} : Signs (literal value :: ws) ↔ Signs ws := by simp [Signs]

@[simp]
theorem signs_leave : Signs (.leave :: ws) ↔ Signs ws := by simp [Signs]

theorem signs_separated {α : Type} {item : α → List Word} (hs : separator.IsSign)
    (hitem : ∀ a, Signs (item a)) (as : List α) : Signs (separated separator item as) := by
  induction as with
  | nil => exact signs_nil
  | cons a rest ih =>
    cases rest with
    | nil => exact hitem a
    | cons b rest => exact signs_append.mpr ⟨hitem a, signs_fixed.mpr ⟨hs, ih⟩⟩

theorem signs_names (ns : List String) : Signs (names ns) := by
  refine signs_separated ?_ (fun n => by simp) ns
  trivial

theorem signs_row (cells : List String) : Signs (row cells) := by
  have hcells : Signs (separated .comma (fun v => [literal v]) cells) := by
    refine signs_separated ?_ (fun value => by simp) cells
    trivial
  simp [row, hcells, TokenKind.IsSign]

theorem signs_condition (c : Condition) : Signs (condition c) := by
  obtain ⟨column, comparison, operand⟩ := c
  cases operand <;> simp [condition, TokenKind.IsSign]

theorem signs_selection (q : Query) : Signs (selection q) := by
  have hconditions : Signs (separated (.keyword .and) condition q.conditions) := by
    refine signs_separated ?_ signs_condition q.conditions
    trivial
  by_cases hc : q.conditions = [] <;>
    simp [selection, hc, hconditions, signs_names, TokenKind.IsSign]

theorem signs_definition (d : Definition) : Signs (definition d) := by
  cases d <;> simp [definition, signs_names, signs_selection, TokenKind.IsSign]

theorem signs_words (statement : Statement) : Signs statement.words := by
  have hrows : ∀ rows, Signs (separated .comma row rows) := by
    refine fun rows => signs_separated ?_ signs_row rows
    trivial
  cases statement <;>
    simp [Statement.words, Statement.said, hrows, signs_definition, signs_selection,
      TokenKind.IsSign]

theorem spells_ofWord (n : String) : Spells (.name n) (.ofWord n) := by
  cases hk : Keyword.ofText? n with
  | none => simpa [TokenKind.ofWord, hk] using Spells.identifier n
  | some k =>
    obtain rfl := Keyword.text_of_ofText? hk
    simpa [TokenKind.ofWord, hk] using Spells.keyword k

end Word

theorem TokenKind.IsSign.writable {kind : TokenKind} (h : kind.IsSign) : kind.Writable := by
  cases kind <;> trivial

theorem TokenKind.IsSign.written {kind : TokenKind} (h : kind.IsSign) :
    kind.written = kind.text.toList := by
  cases kind <;> first | rfl | exact h.elim

namespace Spaced

def single : List TokenKind → List Spaced
  | [] => []
  | kind :: kinds => ⟨[], kind⟩ :: kinds.map fun kind => ⟨[' '], kind⟩

theorem kind_single (kinds : List TokenKind) : (single kinds).map Spaced.kind = kinds := by
  cases kinds <;> simp [single, Function.comp_def]

theorem text_single (kinds : List TokenKind) :
    text (single kinds) [] = [' '].intercalate (kinds.map TokenKind.written) := by
  have hblanks : ∀ kinds : List TokenKind, text (kinds.map fun kind => ⟨[' '], kind⟩) [] =
      kinds.flatMap fun kind => ' ' :: kind.written := by
    intro kinds
    induction kinds with
    | nil => rfl
    | cons kind kinds ih => simp [text, ih]
  have hwritten : ∀ (kind : TokenKind) (kinds : List TokenKind),
      [' '].intercalate ((kind :: kinds).map TokenKind.written) =
        kind.written ++ kinds.flatMap fun kind => ' ' :: kind.written := by
    intro kind kinds
    induction kinds generalizing kind with
    | nil => simp [List.intercalate]
    | cons next kinds ih => simpa [List.intercalate] using ih next
  cases kinds with
  | nil => rfl
  | cons kind kinds => simp only [single, text, hblanks, hwritten, List.nil_append]

theorem laidOut_single {kinds : List TokenKind} (h : ∀ kind ∈ kinds, kind.Writable) :
    LaidOut (single kinds) [] := by
  have hblank : Gap [' '] := .blank (by decide) .nothing
  have hitem : ∀ item ∈ single kinds, item.kind ∈ kinds ∧ Gap item.gap := by
    cases kinds with
    | nil => exact fun item hm => absurd hm List.not_mem_nil
    | cons kind kinds =>
      intro item hm
      obtain rfl | hm := List.mem_cons.mp hm
      · exact ⟨List.mem_cons_self, .nothing⟩
      · obtain ⟨other, ho, rfl⟩ := List.mem_map.mp hm
        exact ⟨List.mem_cons_of_mem kind ho, hblank⟩
  have hapart : (single kinds).IsChain Apart := by
    cases kinds with
    | nil => exact .nil
    | cons kind kinds =>
      have hpair : (single (kind :: kinds)).Pairwise Apart := by
        rw [single, List.pairwise_cons, List.pairwise_map]
        refine ⟨fun item hm _ => ?_, List.pairwise_of_forall fun _ _ _ => List.cons_ne_nil _ _⟩
        obtain ⟨_, -, rfl⟩ := List.mem_map.mp hm
        exact List.cons_ne_nil _ _
      exact hpair.isChain
  exact ⟨fun item hm => h _ (hitem item hm).1, fun item hm => (hitem item hm).2, .nothing, hapart⟩

end Spaced

namespace Statement

variable {statement : Statement} {leave : Keyword}

theorem WellFormed.spells (h : statement.WellFormed) (hl : leave = .exit ∨ leave = .quit)
    {w : Word} (hw : w ∈ statement.words) :
    w.Spells (w.kind leave) ∧ (w.kind leave).Writable ∧
      (w.kind leave).written = (w.text leave).toList := by
  cases w with
  | fixed kind =>
    have hsign := Word.signs_words statement kind hw
    exact ⟨.fixed kind, hsign.writable, hsign.written⟩
  | name n =>
    have hwritable := TokenKind.writable_ofWord (h.names n hw)
    exact ⟨Word.spells_ofWord n, hwritable,
      (TokenKind.ofWord_of_name? hwritable (TokenKind.name?_ofWord n)).2.1⟩
  | literal value =>
    have hvalue := h.values value hw
    have hspells := Word.Spells.literal value
    rw [hvalue.trimmed] at hspells
    refine ⟨hspells, hvalue.toEnclosable, ?_⟩
    simp [Word.kind, Word.text, TokenKind.written]
  | leave => obtain rfl | rfl := hl <;> exact ⟨by constructor, trivial, rfl⟩

theorem text_eq (h : statement.WellFormed) (hl : leave = .exit ∨ leave = .quit) :
    String.ofList (Spaced.text (Spaced.single (statement.words.map (Word.kind leave))) []) =
      statement.text leave := by
  have hwritten : (statement.words.map (Word.kind leave)).map TokenKind.written =
      (statement.words.map (Word.text leave)).map String.toList := by
    rw [List.map_map, List.map_map]
    exact List.map_congr_left fun w hw => (h.spells hl hw).2.2
  apply String.toList_inj.mp
  rw [String.toList_ofList, Spaced.text_single, hwritten, Statement.text, String.toList_intercalate]
  rfl

end Statement

namespace Word

variable {w : Word} {ws : List Word} {kinds : List TokenKind}

theorem spelled_kinds {word : Word → TokenKind} (h : ∀ w ∈ ws, w.Spells (word w)) :
    Spelled ws (ws.map word) := by
  rw [Spelled, List.forall₂_map_right_iff, List.forall₂_same]
  exact h

end Word

theorem Statement.wellFormed_of_sentence {kinds : List TokenKind} {statement : Statement}
    (hkinds : ∀ kind ∈ kinds, kind = .endOfInput ∨ kind.Writable) (hs : Sentence kinds statement) :
    statement.WellFormed := by
  obtain ⟨hcomplete, hspelled⟩ := Word.sentence_iff.mp hs
  refine ⟨hcomplete, fun name hm => ?_, fun value hm => ?_⟩
  · obtain ⟨kind, hk, hname⟩ := Word.exists_name_of_mem hspelled hm
    obtain rfl | hw := hkinds kind hk
    · cases hname
    · exact (TokenKind.ofWord_of_name? hw hname).2.2
  · obtain ⟨kind, hk, written, hliteral, rfl⟩ := Word.exists_literal_of_mem hspelled hm
    obtain rfl | hw := hkinds kind hk
    · cases hliteral
    · exact (TokenKind.enclosable_of_literal? hw hliteral).isValue_trim

theorem Statement.wellFormed_exit : Statement.exit.WellFormed := by
  refine wellFormed_of_sentence (fun kind hm => .inr ?_) Sentence.exit
  obtain rfl | rfl : kind = .keyword .exit ∨ kind = .semicolon := by simpa using hm
  · trivial
  · trivial

theorem Statement.wellFormed_of_reading {events : List Event} {statement : Statement}
    (h : Ended events) (he : WritableEvents events)
    (hr : Draft.empty.reading events = .ok statement) : statement.WellFormed := by
  obtain ⟨tokens, hl, hs⟩ | ⟨rfl, -⟩ := sentence_of_reading h hr
  · refine wellFormed_of_sentence (fun kind hm => ?_) hs
    obtain ⟨token, ht, rfl⟩ := exists_mem_of_leading hl hm
    exact he token ht
  · exact wellFormed_exit

theorem leading_of_sentence {tokens : List Token} {statement : Statement}
    (hs : Sentence (tokens.map Token.kind) statement) (later : List Event) :
    leading (tokens.map .ok ++ later) = tokens.map .ok := by
  obtain ⟨body, draft, hkinds, hreach, -⟩ := Draft.finishes_of_sentence hs
  obtain ⟨before, closing, rfl, rfl, hclosing⟩ := List.map_eq_append_iff.mp hkinds
  obtain ⟨last, rfl, hk⟩ := List.map_eq_singleton_iff.mp hclosing
  have hleading := leading_of_closed (Draft.semicolon_not_mem_of_reach hreach) hk later
  simpa using hleading

namespace Reader

variable {lines : List String} {r : Reader} {statement : Statement}

/-- The reader is left after asking for statements of these lines, and skipping, in any order. -/
inductive Reached (lines : List String) : Reader → Prop
  | start : Reached lines (.ofLines lines)
  | statement {r : Reader} (h : Reached lines r) : Reached lines r.statement.2
  | skip {r : Reader} (h : Reached lines r) : Reached lines r.skip

theorem Reached.subset (h : Reached lines r) :
    r.tokens.events ⊆ (Tokens.ofLines lines).events := by
  induction h with
  | start => exact List.Subset.refl _
  | @statement r h ih => exact List.Subset.trans r.subset_statement ih
  | @skip r h ih => exact List.Subset.trans r.subset_skip ih

theorem Reached.wellFormed (hlines : ∀ line ∈ lines, '\n' ∉ line.toList) (h : Reached lines r)
    (hr : r.statement.1 = .ok statement) : statement.WellFormed := by
  have he : WritableEvents r.tokens.events :=
    fun token hm => Tokens.writable_ofLines hlines token (h.subset hm)
  rw [r.statement_eq_reading] at hr
  exact Statement.wellFormed_of_reading r.tokens.ended_events he hr

theorem statement_text {leave : Keyword} (h : statement.WellFormed)
    (hl : leave = .exit ∨ leave = .quit) :
    (ofLines (Text.scriptLines (statement.text leave).toUTF8)).statement.1 = .ok statement := by
  have hspells := fun w hw => h.spells (w := w) hl hw
  have hsentence : Sentence (statement.words.map (Word.kind leave)) statement :=
    Word.sentence_iff.mpr ⟨h.complete, Word.spelled_kinds fun w hw => (hspells w hw).1⟩
  have hlaidOut : Spaced.LaidOut (Spaced.single (statement.words.map (Word.kind leave))) [] := by
    refine Spaced.laidOut_single fun kind hm => ?_
    obtain ⟨w, hw, rfl⟩ := List.mem_map.mp hm
    exact (hspells w hw).2.1
  have hevents := Tokens.events_laidOut hlaidOut
  rw [Statement.text_eq h hl] at hevents
  rw [← Spaced.kind_single (statement.words.map _), ← Spaced.kind_tokens []] at hsentence
  refine (statement_of_sentence ?_ hsentence).1
  exact (congrArg leading hevents).trans (leading_of_sentence hsentence _)

/-- A statement that is read is well-formed, from whatever script and after whatever has been asked
before. A statement that is well-formed is read from its text. -/
theorem statements_and_texts :
    (∀ bytes r statement, Reached (Text.scriptLines bytes) r → r.statement.1 = .ok statement →
      statement.WellFormed) ∧
    ∀ (statement : Statement) (leave : Keyword), statement.WellFormed →
      leave = .exit ∨ leave = .quit →
      (ofLines (Text.scriptLines (statement.text leave).toUTF8)).statement.1 = .ok statement :=
  ⟨fun bytes _ _ h hr => h.wellFormed (Text.no_lineFeed_scriptLines bytes) hr,
    fun _ _ h hl => statement_text h hl⟩

theorem statements_and_texts_of_keywords :
    let statement : Statement := .create "values" (.query ⟨["from", "größe"], ["where", "t_1"],
      [⟨"and", .atMost, .column "as"⟩, ⟨"x", .less, .literal "/* a;\r-- b"⟩]⟩)
    let r := ofLines (Text.scriptLines (statement.text .exit).toUTF8)
    statement.text .exit = "create table values as select from , größe from where , t_1 " ++
        "where and <= as and x < '/* a;\r-- b' ;" ∧
      statement.WellFormed ∧ r.statement.1 = .ok statement ∧
        ∀ statement', r.statement.1 = .ok statement' → statement'.WellFormed := by
  intro statement r
  have hkeyword := Keyword.isName_text
  have hwide : IsName "größe" := ⟨by decide +kernel, 'g', _, rfl, by decide⟩
  have hlow : IsName "t_1" := ⟨by decide +kernel, 't', _, rfl, by decide⟩
  have hx : IsName "x" := ⟨by decide, 'x', _, rfl, by decide⟩
  have hvalue : IsValue "/* a;\r-- b" :=
    { no_comma := by decide, no_lineFeed := by decide, no_quote := by decide, trimmed := by decide }
  have hwords : statement.words = [.fixed (.keyword .create), .fixed (.keyword .table),
      .name "values", .fixed (.keyword .as), .fixed (.keyword .select), .name "from",
      .fixed .comma, .name "größe", .fixed (.keyword .from), .name "where", .fixed .comma,
      .name "t_1", .fixed (.keyword .where), .name "and", .fixed (.comparison .atMost), .name "as",
      .fixed (.keyword .and), .name "x", .fixed (.comparison .less), .literal "/* a;\r-- b",
      .fixed .semicolon] := rfl
  have h : statement.WellFormed := by
    refine ⟨⟨List.cons_ne_nil _ _, List.cons_ne_nil _ _⟩, fun name hm => ?_, fun value hm => ?_⟩
    · have hname : name = "values" ∨ name = "from" ∨ name = "größe" ∨ name = "where" ∨
          name = "t_1" ∨ name = "and" ∨ name = "as" ∨ name = "x" := by
        simpa [hwords] using hm
      obtain rfl | rfl | rfl | rfl | rfl | rfl | rfl | rfl := hname
      · exact hkeyword .values
      · exact hkeyword .from
      · exact hwide
      · exact hkeyword .where
      · exact hlow
      · exact hkeyword .and
      · exact hkeyword .as
      · exact hx
    · obtain rfl : value = "/* a;\r-- b" := by simpa [hwords] using hm
      exact hvalue
  exact ⟨by decide +kernel, h, statements_and_texts.2 statement .exit h (.inl rfl),
    fun statement' => statements_and_texts.1 _ r statement' .start⟩

end Reader

end TableShell
