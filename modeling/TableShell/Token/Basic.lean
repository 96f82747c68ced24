import TableShell.Comparison

namespace TableShell

inductive Keyword
  | create
  | table
  | insert
  | into
  | values
  | load
  | store
  | print
  | select
  | «from»
  | «where»
  | and
  | as
  | exit
  | quit
  deriving DecidableEq, Repr

namespace Keyword

def all : List Keyword :=
  [create, table, insert, into, values, load, store, print, select, «from», «where», and, as,
    exit, quit]

def text : Keyword → String
  | create => "create"
  | table => "table"
  | insert => "insert"
  | into => "into"
  | values => "values"
  | load => "load"
  | store => "store"
  | print => "print"
  | select => "select"
  | «from» => "from"
  | «where» => "where"
  | and => "and"
  | as => "as"
  | exit => "exit"
  | quit => "quit"

/-- Keywords are spelled in lower case only. -/
def ofText? (word : String) : Option Keyword :=
  all.find? (fun k => k.text == word)

theorem ofText?_text (k : Keyword) : ofText? k.text = some k := by
  cases k <;> decide

theorem text_of_ofText? {word : String} {k : Keyword} (h : ofText? word = some k) :
    k.text = word := by
  simpa using List.find?_some h

end Keyword

inductive TokenKind
  | keyword (k : Keyword)
  | identifier (name : String)
  | literal (value : String)
  | comparison (c : Comparison)
  | leftParen
  | rightParen
  | comma
  | semicolon
  | endOfInput
  deriving DecidableEq, Repr

namespace TokenKind

def ofWord (word : String) : TokenKind :=
  ((Keyword.ofText? word).map keyword).getD (identifier word)

def text : TokenKind → String
  | keyword k => k.text
  | identifier name => name
  | literal value => value
  | comparison c => c.symbol
  | leftParen => "("
  | rightParen => ")"
  | comma => ","
  | semicolon => ";"
  | endOfInput => ""

def describe : TokenKind → String
  | endOfInput => "end of input"
  | literal value => s!"literal '{value}'"
  | kind => s!"'{kind.text}'"

/-- The name that a token may stand for. Every keyword is also a name. -/
def name? : TokenKind → Option String
  | keyword k => some k.text
  | identifier name => some name
  | _ => none

def literal? : TokenKind → Option String
  | literal value => some value
  | _ => none

def comparison? : TokenKind → Option Comparison
  | comparison c => some c
  | _ => none

theorem name?_ofWord (word : String) : (ofWord word).name? = some word := by
  cases h : Keyword.ofText? word with
  | none => simp [ofWord, h, name?]
  | some k => simp [ofWord, h, name?, Keyword.text_of_ofText? h]

end TokenKind

structure Token where
  kind : TokenKind
  line : Nat
  deriving DecidableEq, Repr

end TableShell
