import TableShell.Proofs.ScannedTokens

namespace TableShell

def IsWord (name : String) : Prop := ∀ c ∈ name.toList, Text.isWordChar c = true

instance (name : String) : Decidable (IsWord name) :=
  decidable_of_iff (name.toList.all Text.isWordChar = true) List.all_eq_true

structure Quotable (value : String) : Prop where
  no_comma : ',' ∉ value.toList
  no_lineFeed : '\n' ∉ value.toList

theorem IsWord.not_mem {name : String} (h : IsWord name) {c : Char}
    (hc : Text.isWordChar c = false) : c ∉ name.toList := by
  intro hm
  rw [h c hm] at hc
  cases hc

/-- A word that starts with a letter, as the words of a script do. -/
structure IsName (name : String) : Prop where
  isWord : IsWord name
  letter_first : ∃ c rest, name.toList = c :: rest ∧ Text.isLetter c = true

/-- A value that comes back when it is written between quotes. -/
structure Enclosable (value : String) : Prop extends Quotable value where
  no_quote : '\x27' ∉ value.toList

theorem Keyword.isName_text (k : Keyword) : IsName k.text where
  isWord := by cases k <;> decide
  letter_first := by cases k <;> exact ⟨_, _, rfl, by decide⟩

namespace TokenKind

def Writable : TokenKind → Prop
  | identifier name => IsName name ∧ Keyword.ofText? name = none
  | literal value => Enclosable value
  | endOfInput => False
  | _ => True

def written : TokenKind → List Char
  | literal value => '\x27' :: value.toList ++ ['\x27']
  | kind => kind.text.toList

/-- The text does not go on with what would belong to the token, too. -/
structure Closed (kind : TokenKind) (later : List Char) : Prop where
  word : kind.name?.isSome → ∀ c, later.head? = some c → Text.isWordChar c = false
  comparison : kind = .comparison .less ∨ kind = .comparison .greater → later.head? ≠ some '='

variable {kind : TokenKind} {name : String} {c : Char}

theorem writable_ofWord (h : IsName name) : (ofWord name).Writable := by
  cases hk : Keyword.ofText? name with
  | none => simpa [ofWord, hk, Writable] using h
  | some k => simp [ofWord, hk, Writable]

theorem ofWord_of_name? (h : kind.Writable) (hn : kind.name? = some name) :
    kind = ofWord name ∧ kind.written = name.toList ∧ IsName name := by
  cases kind <;> cases hn
  · rename_i k
    exact ⟨by simp [ofWord, Keyword.ofText?_text], rfl, k.isName_text⟩
  · exact ⟨by simp [ofWord, h.2], rfl, h.1⟩

theorem enclosable_of_literal? {value : String} (h : kind.Writable)
    (hl : kind.literal? = some value) : Enclosable value := by
  cases kind <;> cases hl
  exact h

theorem lineFeed_not_mem_written (h : kind.Writable) : '\n' ∉ kind.written := by
  cases hn : kind.name? with
  | some name =>
    obtain ⟨-, hw, hname⟩ := ofWord_of_name? h hn
    rw [hw]
    exact hname.isWord.not_mem (by decide)
  | none =>
    cases kind with
    | literal value => simpa [written] using h.no_lineFeed
    | comparison comparison => cases comparison <;> decide
    | keyword | identifier => cases hn
    | leftParen | rightParen | comma | semicolon => decide
    | endOfInput => cases h

theorem return_not_last_written (h : kind.Writable) : kind.written.getLast? ≠ some '\r' := by
  cases hn : kind.name? with
  | some name =>
    obtain ⟨-, hw, hname⟩ := ofWord_of_name? h hn
    rw [hw]
    exact fun hl => hname.isWord.not_mem (c := '\r') (by decide) (List.mem_of_getLast? hl)
  | none =>
    cases kind with
    | literal value =>
      rw [written, List.getLast?_concat]
      simp
    | comparison comparison => cases comparison <;> decide
    | keyword | identifier => cases hn
    | leftParen | rightParen | comma | semicolon => decide
    | endOfInput => cases h

end TokenKind

namespace Text

def blankCodes : List Nat :=
  [9, 10, 11, 12, 13, 0x20, 0x85, 0xA0, 0x1680, 0x2000, 0x2001, 0x2002, 0x2003, 0x2004, 0x2005,
    0x2006, 0x2007, 0x2008, 0x2009, 0x200A, 0x2028, 0x2029, 0x202F, 0x205F, 0x3000]

variable {c : Char}

theorem mem_blankCodes (h : isBlank c = true) : c.toNat ∈ blankCodes := by
  simp only [isBlank, Bool.or_eq_true, Bool.and_eq_true, decide_eq_true_eq, beq_iff_eq] at h
  simp only [blankCodes, List.mem_cons, List.not_mem_nil, or_false]
  omega

theorem isWordChar_of_isBlank (h : isBlank c = true) : isWordChar c = false := by
  have hall : ∀ n ∈ blankCodes, isWordChar (Char.ofNat n) = false := by decide +kernel
  simpa using hall c.toNat (mem_blankCodes h)

theorem isWordChar_of_isLetter (h : isLetter c = true) : isWordChar c = true := by
  simp [isWordChar, h]

theorem isBlank_of_isLetter (h : isLetter c = true) : isBlank c = false := by
  cases hb : isBlank c with
  | false => rfl
  | true => rw [← isWordChar_of_isBlank hb, isWordChar_of_isLetter h]

theorem ne_of_isLetter {d : Char} (h : isLetter c = true) (hd : isLetter d = false) : c ≠ d := by
  rintro rfl
  rw [h] at hd
  cases hd

end Text

namespace Scan

variable {kind : TokenKind} {name : String} {c : Char} {cs later : List Char}

theorem writable_literal (h : '\n' ∉ cs) (hk : (literal cs).1 = .ok kind) : kind.Writable := by
  rw [literal] at hk
  split at hk
  · cases hk
  · dsimp only at hk
    split at hk <;> cases hk
    rename_i hcomma
    rw [String.contains_char_eq, String.toList_ofList] at hcomma
    refine { no_comma := ?_, no_lineFeed := ?_, no_quote := ?_ }
    · simpa using hcomma
    · rw [String.toList_ofList]
      exact fun hm => h (List.takeWhile_subset _ hm)
    · rw [String.toList_ofList]
      intro hm
      have hq := List.all_eq_true.mp List.all_takeWhile _ hm
      simp at hq

theorem isName_takeWhile (h : Text.isLetter c = true) (cs : List Char) :
    IsName (String.ofList (c :: cs.takeWhile Text.isWordChar)) where
  isWord := by
    intro d hd
    rw [String.toList_ofList] at hd
    obtain rfl | hd := List.mem_cons.mp hd
    · exact Text.isWordChar_of_isLetter h
    · exact List.all_eq_true.mp List.all_takeWhile d hd
  letter_first := ⟨c, _, String.toList_ofList, h⟩

theorem writable_lexeme (h : '\n' ∉ cs) (hk : (lexeme c cs).1 = .ok kind) : kind.Writable := by
  rw [lexeme] at hk
  split at hk
  · cases hk
    trivial
  split at hk
  · cases hk
    trivial
  split at hk
  · cases hk
    trivial
  split at hk
  · cases hk
    trivial
  split at hk
  · exact writable_literal h hk
  split at hk
  · cases hk
    trivial
  split at hk <;> cases hk
  rename_i hletter
  exact TokenKind.writable_ofWord (isName_takeWhile hletter cs)

theorem writable_line {inComment : Bool} (h : '\n' ∉ cs) (hk : .ok kind ∈ (line inComment cs).1) :
    kind.Writable := by
  obtain ⟨c, rest, hlexeme, hrest⟩ := exists_lexeme_of_mem_line hk
  exact writable_lexeme (fun hm => h (hrest hm)) hlexeme.symm

theorem text_of_lexeme {lexed : Lexeme} (hslash : c ≠ '/') (hdash : c ≠ '-')
    (hb : Text.isBlank c = false) (hl : lexeme c cs = (lexed, later)) :
    text (c :: cs) = (lexed :: (text later).1, (text later).2) := by
  simp [text_cons hslash hdash, hb, hl]

theorem takeWhile_word (h : ∀ c ∈ cs, Text.isWordChar c = true)
    (hend : ∀ c, later.head? = some c → Text.isWordChar c = false) :
    (cs ++ later).takeWhile Text.isWordChar = cs ∧
      (cs ++ later).dropWhile Text.isWordChar = later := by
  rw [List.takeWhile_append_of_pos h, List.dropWhile_append_of_pos h]
  cases later with
  | nil => simp
  | cons d rest => simp [hend d rfl]

theorem text_word (h : IsName name)
    (hend : ∀ c, later.head? = some c → Text.isWordChar c = false) :
    text (name.toList ++ later) = (.ok (.ofWord name) :: (text later).1, (text later).2) := by
  obtain ⟨c, rest, hname, hletter⟩ := h.letter_first
  have hrest : ∀ d ∈ rest, Text.isWordChar d = true := fun d hd =>
    h.isWord d (by rw [hname]; exact List.mem_cons_of_mem c hd)
  have hne : ∀ d, Text.isLetter d = false → c ≠ d := fun d => Text.ne_of_isLetter hletter
  obtain ⟨htake, hdrop⟩ := takeWhile_word hrest hend
  have hread : Comparison.read? (c :: (rest ++ later)) = none := by
    rw [Comparison.read?.eq_def]
    split <;> rename_i hc
    iterate 6 exact absurd (List.cons.inj hc).1 (hne _ (by decide))
    rfl
  have hword : String.ofList (c :: rest) = name := by rw [← hname, String.ofList_toList]
  rw [hname, List.cons_append]
  apply text_of_lexeme (hne _ (by decide)) (hne _ (by decide)) (Text.isBlank_of_isLetter hletter)
  rw [lexeme, if_neg (hne _ (by decide)), if_neg (hne _ (by decide)), if_neg (hne _ (by decide)),
    if_neg (hne _ (by decide)), if_neg (hne _ (by decide)), hread]
  simp [hletter, htake, hdrop, hword]

theorem text_literal {value : String} (h : Enclosable value) :
    text ((TokenKind.literal value).written ++ later) =
      (.ok (.literal value) :: (text later).1, (text later).2) := by
  have hquote : ∀ c ∈ value.toList, (c != '\x27') = true := by
    intro c hc
    simp only [bne_iff_ne]
    rintro rfl
    exact h.no_quote hc
  have hcomma : value.contains ',' = false := by
    rw [String.contains_char_eq]
    simpa using h.no_comma
  have hl : literal (value.toList ++ '\x27' :: later) = (.ok (.literal value), later) := by
    rw [literal, List.takeWhile_append_of_pos hquote, List.dropWhile_append_of_pos hquote]
    simp [hcomma]
  have hwritten : (TokenKind.literal value).written ++ later =
      '\x27' :: (value.toList ++ '\x27' :: later) := by simp [TokenKind.written]
  rw [hwritten]
  apply text_of_lexeme (by decide) (by decide) (by decide)
  simpa [lexeme] using hl

theorem text_comparison (comparison : Comparison)
    (h : comparison = .less ∨ comparison = .greater → later.head? ≠ some '=') :
    text (comparison.symbol.toList ++ later) =
      (.ok (.comparison comparison) :: (text later).1, (text later).2) := by
  have hread := Comparison.read?_symbol_append comparison later h
  obtain ⟨c, rest, hc⟩ : ∃ c rest, comparison.symbol.toList = c :: rest ∧
      (c = '=' ∨ c = '!' ∨ c = '<' ∨ c = '>') := by
    cases comparison <;> exact ⟨_, _, rfl, by decide⟩
  obtain ⟨hsymbol, hc⟩ := hc
  rw [hsymbol, List.cons_append] at hread ⊢
  obtain rfl | rfl | rfl | rfl := hc <;>
    exact text_of_lexeme (by decide) (by decide) (by decide) (by simp [lexeme, hread])

theorem text_written (h : kind.Writable) (hclosed : kind.Closed later) :
    text (kind.written ++ later) = (.ok kind :: (text later).1, (text later).2) := by
  cases hn : kind.name? with
  | some name =>
    obtain ⟨hk, hw, hname⟩ := TokenKind.ofWord_of_name? h hn
    rw [hw, text_word hname (hclosed.word (by simp [hn])), ← hk]
  | none =>
    cases kind with
    | literal value => exact text_literal h
    | comparison comparison =>
      exact text_comparison comparison fun hc => hclosed.comparison (by simpa using hc)
    | keyword | identifier => cases hn
    | leftParen | rightParen | comma | semicolon =>
      exact text_of_lexeme (by decide) (by decide) (by decide) rfl
    | endOfInput => cases h

end Scan

def WritableEvents (events : List Event) : Prop :=
  ∀ token, .ok token ∈ events → token.kind = .endOfInput ∨ token.kind.Writable

theorem Source.writable_eventsFrom {lines : List String} (h : ∀ line ∈ lines, '\n' ∉ line.toList)
    (number : Nat) (inComment : Bool) : WritableEvents (eventsFrom number inComment lines) := by
  induction lines generalizing number inComment with
  | nil =>
    intro token hm
    rw [eventsFrom] at hm
    split at hm <;> simp [Lexeme.at] at hm
  | cons line rest ih =>
    obtain ⟨hline, hrest⟩ := List.forall_mem_cons.mp h
    intro token hm
    rw [eventsFrom] at hm
    obtain hm | hm := List.mem_append.mp hm
    · obtain ⟨lexeme, hl, he⟩ := List.mem_map.mp hm
      cases lexeme with
      | error e => cases he
      | ok kind =>
        cases he
        exact .inr (Scan.writable_line hline hl)
    · exact ih hrest _ _ token hm

theorem Tokens.writable_ofLines {lines : List String} (h : ∀ line ∈ lines, '\n' ∉ line.toList) :
    WritableEvents (ofLines lines).events := by
  intro token hm
  have hm := subset_upToEnd _ hm
  rw [ofLines, List.map_nil, List.nil_append, Source.upcoming_ofLines] at hm
  obtain hm | hm := List.mem_append.mp hm
  · exact Source.writable_eventsFrom h 0 false token hm
  · cases List.mem_singleton.mp hm
    exact .inl rfl

end TableShell
