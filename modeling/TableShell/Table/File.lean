import TableShell.Table.Basic
import TableShell.Text.Lines

namespace TableShell

namespace Row

def line (row : Row) : String := ",".intercalate row ++ "\n"

def ofText (text : String) : Row := (text.toList.splitOn ',').map String.ofList

def ofLine (path : String) (line : List UInt8) : Except Fault Row :=
  match Text.decode? line with
  | some text => .ok (ofText text)
  | none => .error (.file path "stream did not contain valid UTF-8")

end Row

namespace Table

/-- The titles, then the rows in the order in which they were inserted. There is no quoting, so a
field that holds a comma or a line end does not come back as it was. -/
def fileText (t : Table) : String := String.join ((t.titles :: t.rows).map Row.line)

def locate {α : Type} (path : String) (line : Nat) (result : Except Fault α) : Except Fault α :=
  result.mapError fun fault => .format path line fault.message

def insertLines (path : String) (t : Table) (number : Nat) :
    List (List UInt8) → Except Fault Table
  | [] => .ok t
  | line :: rest => do
    let row ← Row.ofLine path line
    let inserted ← locate path number (t.insert row)
    insertLines path inserted.2 (number + 1) rest

def ofFile (path : String) (contents : ByteArray) : Except Fault Table :=
  match Text.recordLines contents with
  | [] => .error (.format path 1 "missing header")
  | header :: lines => do
    let titles ← Row.ofLine path header
    let t ← locate path 1 (ofTitles titles)
    insertLines path t 2 lines

end Table

end TableShell
