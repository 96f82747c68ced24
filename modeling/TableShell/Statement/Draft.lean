import TableShell.Fault
import TableShell.Statement.Basic
import TableShell.Text.Blank
import TableShell.Token.Basic

namespace TableShell

inductive Purpose
  | answer
  | define (name : String)
  deriving DecidableEq, Repr

def Purpose.statement : Purpose → Query → Statement
  | answer, query => .select query
  | define name, query => .create name (.query query)

inductive TableVerb
  | load
  | store
  | print
  deriving DecidableEq, Repr

def TableVerb.statement : TableVerb → String → Statement
  | load, name => .load name
  | store, name => .store name
  | print, name => .print name

/-- Each constructor holds what has been read, and its name says where in the statement. -/
inductive Draft
  | empty
  | create
  | createTable
  | createNamed (name : String)
  | createColumn (name : String) (titles : List String)
  | createAfterColumn (name : String) (titles : List String)
  | createAs (name : String)
  | insert
  | insertInto
  | insertNamed (table : String)
  | insertRow (table : String) (rows : List (List String))
  | insertCell (table : String) (rows : List (List String)) (cells : List String)
  | insertAfterCell (table : String) (rows : List (List String)) (cells : List String)
  | insertAfterRow (table : String) (rows : List (List String))
  | named (verb : TableVerb)
  | selectColumn (purpose : Purpose) (columns : List String)
  | selectAfterColumn (purpose : Purpose) (columns : List String)
  | selectTable (purpose : Purpose) (columns tables : List String)
  | selectAfterTable (purpose : Purpose) (columns tables : List String)
  | condition (purpose : Purpose) (columns tables : List String) (conditions : List Condition)
  | conditionColumn (purpose : Purpose) (columns tables : List String)
      (conditions : List Condition) (column : String)
  | conditionOperand (purpose : Purpose) (columns tables : List String)
      (conditions : List Condition) (column : String) (comparison : Comparison)
  | afterCondition (purpose : Purpose) (columns tables : List String)
      (conditions : List Condition)
  | complete (statement : Statement)
  deriving DecidableEq, Repr

namespace Draft

inductive Step
  | shift (draft : Draft)
  | finish (statement : Statement)
  | refuse
  deriving DecidableEq, Repr

def on (kind expected : TokenKind) (draft : Draft) : Step :=
  if kind = expected then .shift draft else .refuse

def onSome {α : Type} (value : Option α) (draft : α → Draft) : Step :=
  match value with
  | some a => .shift (draft a)
  | none => .refuse

/-- Shifts on a comma; any other token has to do what `otherwise` says. -/
def orComma (kind : TokenKind) (draft : Draft) (otherwise : Step) : Step :=
  if kind = .comma then .shift draft else otherwise

def finishOn (kind : TokenKind) (statement : Statement) : Step :=
  if kind = .semicolon then .finish statement else .refuse

def query (columns tables : List String) (conditions : List Condition) : Query :=
  ⟨columns.reverse, tables.reverse, conditions.reverse⟩

/-- Nothing read yet and the end of input: the session is over. -/
def start : TokenKind → Step
  | .keyword .create => .shift create
  | .keyword .insert => .shift insert
  | .keyword .load => .shift (named .load)
  | .keyword .store => .shift (named .store)
  | .keyword .print => .shift (named .print)
  | .keyword .select => .shift (selectColumn .answer [])
  | .keyword .exit => .shift (complete .exit)
  | .keyword .quit => .shift (complete .exit)
  | .endOfInput => .finish .exit
  | _ => .refuse

def step (kind : TokenKind) : Draft → Step
  | empty => start kind
  | create => on kind (.keyword .table) createTable
  | createTable => onSome kind.name? createNamed
  | createNamed name =>
    if kind = .leftParen then .shift (createColumn name [])
    else on kind (.keyword .as) (createAs name)
  | createColumn name titles =>
    onSome kind.name? fun title => createAfterColumn name (title :: titles)
  | createAfterColumn name titles =>
    orComma kind (createColumn name titles)
      (on kind .rightParen (complete (.create name (.columns titles.reverse))))
  | createAs name => on kind (.keyword .select) (selectColumn (.define name) [])
  | insert => on kind (.keyword .into) insertInto
  | insertInto => onSome kind.name? insertNamed
  | insertNamed table => on kind (.keyword .values) (insertRow table [])
  | insertRow table rows => on kind .leftParen (insertCell table rows [])
  | insertCell table rows cells =>
    onSome kind.literal? fun value => insertAfterCell table rows (Text.trim value :: cells)
  | insertAfterCell table rows cells =>
    orComma kind (insertCell table rows cells)
      (on kind .rightParen (insertAfterRow table (cells.reverse :: rows)))
  | insertAfterRow table rows =>
    orComma kind (insertRow table rows) (finishOn kind (.insert table rows.reverse))
  | named verb => onSome kind.name? fun name => complete (verb.statement name)
  | selectColumn purpose columns =>
    onSome kind.name? fun column => selectAfterColumn purpose (column :: columns)
  | selectAfterColumn purpose columns =>
    orComma kind (selectColumn purpose columns)
      (on kind (.keyword .from) (selectTable purpose columns []))
  | selectTable purpose columns tables =>
    onSome kind.name? fun table => selectAfterTable purpose columns (table :: tables)
  | selectAfterTable purpose columns tables =>
    orComma kind (selectTable purpose columns tables)
      (if kind = .keyword .where then .shift (condition purpose columns tables [])
      else finishOn kind (purpose.statement (query columns tables [])))
  | condition purpose columns tables conditions =>
    onSome kind.name? fun column => conditionColumn purpose columns tables conditions column
  | conditionColumn purpose columns tables conditions column =>
    onSome kind.comparison? fun comparison =>
      conditionOperand purpose columns tables conditions column comparison
  | conditionOperand purpose columns tables conditions column comparison =>
    match kind.literal? with
    | some value => .shift (afterCondition purpose columns tables
        (⟨column, comparison, .literal (Text.trim value)⟩ :: conditions))
    | none => onSome kind.name? fun name => afterCondition purpose columns tables
        (⟨column, comparison, .column name⟩ :: conditions)
  | afterCondition purpose columns tables conditions =>
    if kind = .keyword .and then .shift (condition purpose columns tables conditions)
    else finishOn kind (purpose.statement (query columns tables conditions))
  | complete statement => finishOn kind statement

def expected : Draft → String
  | empty => "statement"
  | create => TokenKind.describe (.keyword .table)
  | createNamed _ => TokenKind.describe (.keyword .as)
  | createAs _ => TokenKind.describe (.keyword .select)
  | insert => TokenKind.describe (.keyword .into)
  | insertNamed _ => TokenKind.describe (.keyword .values)
  | insertRow .. => TokenKind.describe .leftParen
  | createAfterColumn .. | insertAfterCell .. => TokenKind.describe .rightParen
  | selectAfterColumn .. => TokenKind.describe (.keyword .from)
  | insertAfterRow .. | selectAfterTable .. | afterCondition .. | complete _ =>
    TokenKind.describe .semicolon
  | insertCell .. => "literal"
  | conditionColumn .. => "relation"
  | createTable | createColumn .. | insertInto | named _ | selectColumn .. | selectTable ..
  | condition .. | conditionOperand .. => "name"

def refusal (draft : Draft) (token : Token) : Fault :=
  match draft with
  | empty => .unknownCommand token.kind.describe
  | _ => .unexpectedToken draft.expected token.kind.describe token.line

theorem step_endOfInput (draft draft' : Draft) : step .endOfInput draft ≠ .shift draft' := by
  cases draft <;>
    simp [step, start, on, onSome, orComma, finishOn, TokenKind.name?, TokenKind.literal?,
      TokenKind.comparison?]

/-- The only statement that takes no token of its own is the one that ends the session. -/
theorem eq_exit_of_start {kind : TokenKind} {statement : Statement}
    (h : start kind = .finish statement) : statement = .exit := by
  unfold start at h
  split at h <;> cases h
  rfl

end Draft

end TableShell
