import TableShell.Text.Blank

namespace TableShell.Text

def decode? (bytes : List UInt8) : Option String :=
  String.fromUTF8? ⟨bytes.toArray⟩

/-- The pieces between line feeds. The last one is a line only if it is not empty. -/
def pieces (bytes : ByteArray) : List (List UInt8) :=
  bytes.data.toList.splitOn 10

/-- What stands after the last line feed, as a list of at most one line. -/
def unended (bytes : ByteArray) : List (List UInt8) :=
  ((pieces bytes).getLast?.filter (fun piece => !piece.isEmpty)).toList

def decodeLines : List (List UInt8) → List String
  | [] => []
  | line :: rest =>
    match decode? line with
    | some text => text :: decodeLines rest
    | none => []

def dropReturns (s : String) : String :=
  String.ofList (dropEndWhile (· == '\r') s.toList)

/-- The lines of a script, without their line ends, as far as they are valid UTF-8. -/
def scriptLines (bytes : ByteArray) : List String :=
  (decodeLines ((pieces bytes).dropLast ++ unended bytes)).map dropReturns

/-- One carriage return belongs to the line feed that follows it. -/
def dropReturn (line : List UInt8) : List UInt8 :=
  if line.getLast? = some 13 then line.dropLast else line

def recordLines (bytes : ByteArray) : List (List UInt8) :=
  (pieces bytes).dropLast.map dropReturn ++ unended bytes

end TableShell.Text
