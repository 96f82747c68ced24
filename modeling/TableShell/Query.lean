import TableShell.Comparison

namespace TableShell

inductive Operand
  | literal (value : String)
  | column (name : String)
  deriving DecidableEq, Repr

structure Condition where
  column : String
  comparison : Comparison
  operand : Operand
  deriving DecidableEq, Repr

/-- Select `columns` from `tables` where every condition holds. -/
structure Query where
  columns : List String
  tables : List String
  conditions : List Condition
  deriving DecidableEq, Repr

end TableShell
