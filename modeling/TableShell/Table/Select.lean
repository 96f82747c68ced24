import TableShell.Query
import TableShell.Table.Basic
import TableShell.Text.Blank

namespace TableShell

def Operand.value? (titles : List String) (row : Row) : Operand → Option String
  | .literal value => some value
  | .column name => Row.cell? titles row name

def Operand.columns : Operand → List String
  | .literal _ => []
  | .column name => [name]

namespace Condition

/-- The columns a condition speaks of, the right one first. -/
def columns (c : Condition) : List String := c.operand.columns ++ [c.column]

/-- Both sides are compared without the blanks around them. -/
def holds (titles : List String) (row : Row) (c : Condition) : Bool :=
  match Row.cell? titles row c.column, c.operand.value? titles row with
  | some left, some right => c.comparison.holds (Text.trim left) (Text.trim right)
  | _, _ => false

end Condition

namespace Query

/-- The columns a query speaks of, in the order in which they are looked for. -/
def allColumns (q : Query) : List String := q.columns ++ q.conditions.flatMap Condition.columns

def holds (q : Query) (titles : List String) (row : Row) : Bool :=
  q.conditions.all (Condition.holds titles row)

end Query

namespace Table

def resolve (t : Table) (q : Query) : Except Fault Unit :=
  match q.allColumns.find? (· ∉ t.titles) with
  | some name => .error (.unknownColumn name)
  | none => .ok ()

def select (t : Table) (q : Query) : Except Fault Table := do
  t.resolve q
  let result ← ofTitles q.columns
  result.insertAll
    ((t.rows.filter (q.holds t.titles)).map fun row => Row.select t.titles row q.columns)

end Table

end TableShell
