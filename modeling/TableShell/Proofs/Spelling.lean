import TableShell.Proofs.FileText
import TableShell.Proofs.SentencesRead
import TableShell.Proofs.TrimmedText
import TableShell.Proofs.WrittenTokens

namespace TableShell

theorem IsWord.plain {name : String} (h : IsWord name) : Plain name where
  no_comma := h.not_mem (by decide)
  no_lineFeed := h.not_mem (by decide)
  no_return_last hl := h.not_mem (c := '\r') (by decide) (List.mem_of_getLast? hl)

theorem Quotable.plain_trim {value : String} (h : Quotable value) : Plain (Text.trim value) where
  no_comma hm := h.no_comma (Text.subset_trim value hm)
  no_lineFeed hm := h.no_lineFeed (Text.subset_trim value hm)
  no_return_last hl := by
    have hb := Text.not_blank_last_trim hl
    revert hb
    decide

/-- The token stands for a name or a value only if that is spelled so. -/
structure TokenKind.Spelled (kind : TokenKind) : Prop where
  name : ∀ name, kind.name? = some name → IsWord name
  literal : ∀ value, kind.literal? = some value → Quotable value

theorem TokenKind.Writable.spelled {kind : TokenKind} (h : kind.Writable) : kind.Spelled where
  name _ hn := (ofWord_of_name? h hn).2.2.isWord
  literal _ hl := (enclosable_of_literal? h hl).toQuotable

theorem TokenKind.spelled_endOfInput : endOfInput.Spelled where
  name _ hn := by cases hn
  literal _ hl := by cases hl

def SpelledEvents (events : List Event) : Prop := ∀ token, .ok token ∈ events → token.kind.Spelled

theorem WritableEvents.spelled {events : List Event} (h : WritableEvents events) :
    SpelledEvents events := by
  intro token hm
  obtain hend | hw := h token hm
  · rw [hend]
    exact TokenKind.spelled_endOfInput
  · exact hw.spelled

theorem Tokens.spelled_ofLines {lines : List String} (h : ∀ line ∈ lines, '\n' ∉ line.toList) :
    SpelledEvents (ofLines lines).events :=
  (writable_ofLines h).spelled

/-- What a statement puts into a database is spelled so that a file can hold it. -/
def Statement.Spelled : Statement → Prop
  | create name (.columns titles) => IsWord name ∧ ∀ title ∈ titles, IsWord title
  | create name (.query _) => IsWord name
  | insert _ rows => ∀ row ∈ rows, ∀ cell ∈ row, Plain cell
  | load name => IsWord name
  | _ => True

theorem Statement.spelled_of_words {statement : Statement}
    (hnames : ∀ name, .name name ∈ statement.words → IsWord name)
    (hvalues : ∀ value, .literal value ∈ statement.words → Plain value) : statement.Spelled := by
  have hsaid : ∀ w ∈ statement.said, w ∈ statement.words := fun w => List.mem_append_left _
  cases statement with
  | create name definition =>
    have hname : IsWord name := hnames name (hsaid _ (by simp [said]))
    cases definition with
    | query q => exact hname
    | columns titles =>
      refine ⟨hname, fun title ht => hnames title (hsaid _ ?_)⟩
      simp [said, Word.definition, Word.name_mem_names ht]
  | insert table rows =>
    exact fun row hrow cell hcell => hvalues cell (Word.literal_mem_insert hrow hcell)
  | load name => exact hnames name (hsaid _ (by simp [said]))
  | store name => trivial
  | print name => trivial
  | select q => trivial
  | exit => trivial

theorem Statement.spelled_of_sentence {kinds : List TokenKind} {statement : Statement}
    (hkinds : ∀ kind ∈ kinds, kind.Spelled) (hs : Grammar.Sentence kinds statement) :
    statement.Spelled := by
  obtain ⟨-, hspelled⟩ := Word.sentence_iff.mp hs
  apply spelled_of_words
  · intro name hm
    obtain ⟨kind, hk, hname⟩ := Word.exists_name_of_mem hspelled hm
    exact (hkinds kind hk).name name hname
  · intro value hm
    obtain ⟨kind, hk, written, hliteral, rfl⟩ := Word.exists_literal_of_mem hspelled hm
    exact ((hkinds kind hk).literal written hliteral).plain_trim

theorem spelled_of_reading {events : List Event} {statement : Statement} (h : Ended events)
    (he : SpelledEvents events) (hr : Draft.empty.reading events = .ok statement) :
    statement.Spelled := by
  obtain ⟨tokens, hl, hs⟩ | ⟨rfl, -⟩ := sentence_of_reading h hr
  · refine Statement.spelled_of_sentence (fun kind hm => ?_) hs
    obtain ⟨token, ht, rfl⟩ := exists_mem_of_leading hl hm
    exact he token ht
  · trivial

end TableShell
