namespace TableShell

inductive Fault
  | lexical (line : Nat) (message : String)
  | unexpectedToken (expected found : String) (line : Nat)
  | unknownCommand (found : String)
  | unknownTable (name : String)
  | unknownColumn (name : String)
  | duplicateColumn (name : String)
  | noColumns
  | arity (expected found : Nat)
  | invalidAccess (row column : Nat)
  | tooManyTables (count : Nat)
  | fileNotFound (path : String)
  | format (path : String) (line : Nat) (message : String)
  | file (path reason : String)
  | io (reason : String)
  deriving DecidableEq, Repr

namespace Fault

inductive Kind
  | lexical
  | grammar
  | semantic
  | io
  deriving DecidableEq, Repr

def kind : Fault → Kind
  | lexical .. => .lexical
  | unexpectedToken .. | unknownCommand _ => .grammar
  | unknownTable _ | unknownColumn _ | duplicateColumn _ | noColumns | arity .. | invalidAccess ..
  | tooManyTables _ => .semantic
  | fileNotFound _ | format .. | file .. | io _ => .io

def message : Fault → String
  | lexical line message => s!"line {line}: {message}"
  | unexpectedToken expected found line => s!"line {line}: expected {expected}, found {found}"
  | unknownCommand found => s!"unrecognizable command: {found}"
  | unknownTable name => s!"unknown table: {name}"
  | unknownColumn name => s!"unknown column: {name}"
  | duplicateColumn name => s!"duplicate column name: {name}"
  | noColumns => "table must have at least one column"
  | arity expected found => s!"row has {found} values, table has {expected} columns"
  | invalidAccess row column => s!"invalid row or column: ({row}, {column})"
  | tooManyTables count => s!"select takes one or two tables, found {count}"
  | fileNotFound path => s!"could not find {path}"
  | format path line message => s!"{path}: line {line}: {message}"
  | file path reason => s!"problem accessing {path}: {reason}"
  | io reason => s!"IO error: {reason}"

end Fault

theorem exists_of_bind_eq_ok {α β : Type} {x : Except Fault α} {f : α → Except Fault β} {b : β}
    (h : x >>= f = .ok b) : ∃ a, x = .ok a ∧ f a = .ok b := by
  cases x with
  | error fault => cases h
  | ok a => exact ⟨a, rfl, h⟩

theorem bind_eq_error_iff {α β : Type} {x : Except Fault α} {f : α → Except Fault β}
    {fault : Fault} :
    x >>= f = .error fault ↔ x = .error fault ∨ ∃ a, x = .ok a ∧ f a = .error fault := by
  cases x with
  | error other => simp [bind, Except.bind]
  | ok a => simp [bind, Except.bind]

theorem exists_of_map_eq_ok {α β : Type} {x : Except Fault α} {f : α → β} {b : β}
    (h : x.map f = .ok b) : ∃ a, x = .ok a ∧ f a = b := by
  cases x with
  | error fault => cases h
  | ok a =>
    cases h
    exact ⟨a, rfl, rfl⟩

end TableShell
