import TableShell.Fault
import TableShell.Text.Letter
import TableShell.Text.Blank
import TableShell.Token.Basic

namespace TableShell

open Text

inductive LexicalError
  | unrecognized (c : Char)
  | unendedLiteral
  | commaInLiteral (value : String)
  | unendedComment
  deriving DecidableEq, Repr

def LexicalError.message : LexicalError → String
  | unrecognized c => s!"unrecognized character '{c}'"
  | unendedLiteral => "unterminated literal"
  | commaInLiteral value => s!"literal may not contain ',': '{value}'"
  | unendedComment => "unterminated comment"

abbrev Lexeme := Except LexicalError TokenKind

namespace Scan

def afterComment? : List Char → Option (List Char)
  | '*' :: '/' :: cs => some cs
  | _ :: cs => afterComment? cs
  | [] => none

/-- A literal whose opening quote has been read. It ends on its line, and a literal that does not
takes the whole line with it. -/
def literal (cs : List Char) : Lexeme × List Char :=
  match cs.dropWhile (· != '\x27') with
  | [] => (.error .unendedLiteral, [])
  | _ :: rest =>
    let value := String.ofList (cs.takeWhile (· != '\x27'))
    (if value.contains ',' then .error (.commaInLiteral value) else .ok (.literal value), rest)

def lexeme (c : Char) (cs : List Char) : Lexeme × List Char :=
  if c = '(' then (.ok .leftParen, cs)
  else if c = ')' then (.ok .rightParen, cs)
  else if c = ',' then (.ok .comma, cs)
  else if c = ';' then (.ok .semicolon, cs)
  else if c = '\x27' then literal cs
  else match Comparison.read? (c :: cs) with
    | some (comparison, rest) => (.ok (.comparison comparison), rest)
    | none =>
      if isLetter c then
        (.ok (.ofWord (String.ofList (c :: cs.takeWhile isWordChar))), cs.dropWhile isWordChar)
      else (.error (.unrecognized c), cs)

theorem length_of_afterComment? {cs rest : List Char} (h : afterComment? cs = some rest) :
    rest.length < cs.length := by
  fun_induction afterComment? cs with
  | case1 cs =>
    cases h
    exact Nat.lt_succ_of_lt (Nat.lt_succ_self _)
  | case2 c cs hc ih => exact Nat.lt_succ_of_lt (ih h)
  | case3 => simp at h

theorem length_dropWhile_le (p : Char → Bool) (cs : List Char) :
    (cs.dropWhile p).length ≤ cs.length :=
  (List.dropWhile_suffix p).length_le

theorem length_literal_le (cs : List Char) : (literal cs).2.length ≤ cs.length := by
  have h := length_dropWhile_le (· != '\x27') cs
  unfold literal
  split
  · simp
  · rename_i hd
    rw [hd] at h
    exact Nat.le_of_succ_le h

theorem length_lexeme_le (c : Char) (cs : List Char) : (lexeme c cs).2.length ≤ cs.length := by
  unfold lexeme
  split
  · simp
  split
  · simp
  split
  · simp
  split
  · simp
  split
  · exact length_literal_le cs
  split
  · rename_i h
    exact Nat.le_of_lt_succ (Comparison.length_of_read? h)
  split
  · exact length_dropWhile_le isWordChar cs
  · simp

/-- The lexemes of a line outside of comments, and whether it leaves a block comment open. -/
def text (cs : List Char) : List Lexeme × Bool :=
  match cs with
  | [] => ([], false)
  | '/' :: '*' :: cs =>
    match _h : afterComment? cs with
    | none => ([], true)
    | some rest => text rest
  | '/' :: '/' :: _ => ([], false)
  | '-' :: '-' :: _ => ([], false)
  | c :: cs =>
    if isBlank c then text cs
    else
      let found := lexeme c cs
      let later := text found.2
      (found.1 :: later.1, later.2)
termination_by cs.length
decreasing_by
  · have := length_of_afterComment? _h
    simp only [List.length_cons]
    omega
  · simp
  · have := length_lexeme_le c cs
    simp only [List.length_cons]
    omega

theorem text_nil : text [] = ([], false) := by
  rw [text.eq_def]

theorem text_cons {c : Char} (hslash : c ≠ '/') (hdash : c ≠ '-') (cs : List Char) :
    text (c :: cs) =
      if isBlank c then text cs
      else ((lexeme c cs).1 :: (text (lexeme c cs).2).1, (text (lexeme c cs).2).2) := by
  rw [text.eq_def]
  split
  · rename_i h
    cases h
  · rename_i h
    cases h
    exact absurd rfl hslash
  · rename_i h
    cases h
    exact absurd rfl hslash
  · rename_i h
    cases h
    exact absurd rfl hdash
  · rename_i h
    cases h
    rfl

theorem text_blank {c : Char} (h : isBlank c = true) (cs : List Char) : text (c :: cs) = text cs := by
  have hslash : c ≠ '/' := by
    rintro rfl
    exact absurd h (by decide)
  have hdash : c ≠ '-' := by
    rintro rfl
    exact absurd h (by decide)
  rw [text_cons hslash hdash, if_pos h]

theorem text_mark {mark : Char} (h : mark = '/' ∨ mark = '-') (cs : List Char) :
    text (mark :: mark :: cs) = ([], false) := by
  obtain rfl | rfl := h <;> rw [text.eq_def] <;> rfl

def line (inComment : Bool) (cs : List Char) : List Lexeme × Bool :=
  if inComment then
    match afterComment? cs with
    | none => ([], true)
    | some rest => text rest
  else text cs

theorem text_comment (cs : List Char) : text ('/' :: '*' :: cs) = line true cs := by
  rw [text.eq_def, line, if_pos rfl]
  change (match _h : afterComment? cs with
    | none => ([], true)
    | some rest => text rest) = _
  split <;> rename_i h <;> rw [h]

theorem line_close (cs : List Char) : line true ('*' :: '/' :: cs) = text cs := by
  simp [line, afterComment?]

theorem line_cons {c : Char} {cs : List Char} (h : c = '*' → cs.head? ≠ some '/') :
    line true (c :: cs) = line true cs := by
  have hafter : afterComment? (c :: cs) = afterComment? cs := by
    rw [afterComment?.eq_2]
    rintro rest rfl rfl
    exact h rfl rfl
  simp [line, hafter]

end Scan

end TableShell
