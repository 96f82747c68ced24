import TableShell.Statement.Basic
import TableShell.Text.Blank
import TableShell.Token.Basic

/-!
The grammar of statements. A phrase relates the kinds of its tokens to what it stands for:

    sentence  ::= "create" "table" name tableDef ";"
                | "insert" "into" name "values" row ("," row)* ";"
                | ("load" | "store" | "print") name ";"
                | selection ";"
                | ("exit" | "quit") ";"
    tableDef  ::= "(" name ("," name)* ")" | "as" selection
    row       ::= "(" literal ("," literal)* ")"
    selection ::= "select" name ("," name)* "from" name ("," name)* ("where" cond ("and" cond)*)?
    cond      ::= name comparison (literal | name)

Every keyword is also a name, and the blanks around a literal do not count.
-/

namespace TableShell.Grammar

abbrev Phrase (α : Type) := List TokenKind → α → Prop

inductive Name : Phrase String
  | identifier (name : String) : Name [.identifier name] name
  | keyword (k : Keyword) : Name [.keyword k] k.text

inductive Literal : Phrase String
  | literal (value : String) : Literal [.literal value] (Text.trim value)

inductive Separated {α : Type} (separator : TokenKind) (Item : Phrase α) : Phrase (List α)
  | one {kinds : List TokenKind} {a : α} (item : Item kinds a) :
    Separated separator Item kinds [a]
  | more {kinds later : List TokenKind} {a : α} {as : List α} (item : Item kinds a)
      (items : Separated separator Item later as) :
    Separated separator Item (kinds ++ separator :: later) (a :: as)

inductive RowPhrase : Phrase (List String)
  | cells {kinds : List TokenKind} {cells : List String}
      (h : Separated .comma Literal kinds cells) :
    RowPhrase (.leftParen :: kinds ++ [.rightParen]) cells

inductive Cond : Phrase Condition
  | literal {column value : List TokenKind} {name text : String} (c : Comparison)
      (hc : Name column name) (hv : Literal value text) :
    Cond (column ++ .comparison c :: value) ⟨name, c, .literal text⟩
  | column {column other : List TokenKind} {name text : String} (c : Comparison)
      (hc : Name column name) (ho : Name other text) :
    Cond (column ++ .comparison c :: other) ⟨name, c, .column text⟩

inductive Selection : Phrase Query
  | all {cs ts : List TokenKind} {columns tables : List String}
      (hc : Separated .comma Name cs columns) (ht : Separated .comma Name ts tables) :
    Selection (.keyword .select :: cs ++ .keyword .from :: ts) ⟨columns, tables, []⟩
  | filtered {cs ts ws : List TokenKind} {columns tables : List String}
      {conditions : List Condition} (hc : Separated .comma Name cs columns)
      (ht : Separated .comma Name ts tables)
      (hw : Separated (.keyword .and) Cond ws conditions) :
    Selection (.keyword .select :: cs ++ .keyword .from :: ts ++ .keyword .where :: ws)
      ⟨columns, tables, conditions⟩

inductive TableDef : Phrase Definition
  | columns {kinds : List TokenKind} {titles : List String}
      (h : Separated .comma Name kinds titles) :
    TableDef (.leftParen :: kinds ++ [.rightParen]) (.columns titles)
  | query {kinds : List TokenKind} {q : Query} (h : Selection kinds q) :
    TableDef (.keyword .as :: kinds) (.query q)

inductive Sentence : Phrase Statement
  | create {kinds body : List TokenKind} {name : String} {definition : Definition}
      (hn : Name kinds name) (hd : TableDef body definition) :
    Sentence (.keyword .create :: .keyword .table :: kinds ++ body ++ [.semicolon])
      (.create name definition)
  | insert {kinds body : List TokenKind} {name : String} {rows : List (List String)}
      (hn : Name kinds name) (hr : Separated .comma RowPhrase body rows) :
    Sentence
      (.keyword .insert :: .keyword .into :: kinds ++ .keyword .values :: body ++ [.semicolon])
      (.insert name rows)
  | load {kinds : List TokenKind} {name : String} (hn : Name kinds name) :
    Sentence (.keyword .load :: kinds ++ [.semicolon]) (.load name)
  | store {kinds : List TokenKind} {name : String} (hn : Name kinds name) :
    Sentence (.keyword .store :: kinds ++ [.semicolon]) (.store name)
  | print {kinds : List TokenKind} {name : String} (hn : Name kinds name) :
    Sentence (.keyword .print :: kinds ++ [.semicolon]) (.print name)
  | select {kinds : List TokenKind} {q : Query} (hq : Selection kinds q) :
    Sentence (kinds ++ [.semicolon]) (.select q)
  | exit : Sentence [.keyword .exit, .semicolon] .exit
  | quit : Sentence [.keyword .quit, .semicolon] .exit

end TableShell.Grammar
