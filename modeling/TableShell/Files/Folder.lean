import TableShell.Files.Path

namespace TableShell

inductive FileError
  | missing
  | notDirectory
  | isDirectory
  | nameTooLong
  | zeroByte
  | system (code : Nat) (description : String)
  deriving DecidableEq, Repr

namespace FileError

def describe (code : Nat) (description : String) : String := s!"{description} (os error {code})"

def text : FileError → String
  | missing => describe 2 "No such file or directory"
  | notDirectory => describe 20 "Not a directory"
  | isDirectory => describe 21 "Is a directory"
  | nameTooLong => describe 36 "File name too long"
  | zeroByte => "file name contained an unexpected NUL byte"
  | system code description => describe code description

end FileError

inductive Entry
  | directory
  | file (contents : ByteArray)

/-- Names, the innermost first. `..` goes up, and the directories above the working directory exist
but hold nothing else that is known. -/
abbrev Location := List String

namespace Location

def up : Location → Location
  | [] => [".."]
  | ".." :: rest => ".." :: ".." :: rest
  | ["/"] => ["/"]
  | _ :: rest => rest

def isGiven (location : Location) : Bool := location = ["/"] || location.all (· = "..")

def isOutside (location : Location) : Bool :=
  location.getLast? = some "/" || location.getLast? = some ".."

def text (location : Location) : String := "/".intercalate location.reverse

end Location

structure Folder where
  entries : List (Location × Entry)

namespace Folder

def empty : Folder := ⟨[]⟩

def entry? (f : Folder) (location : Location) : Option Entry :=
  if location.isGiven then some .directory else f.entries.lookup location

def setEntry (location : Location) (entry : Entry) :
    List (Location × Entry) → List (Location × Entry)
  | [] => [(location, entry)]
  | known :: rest =>
    if known.1 = location then (location, entry) :: rest
    else known :: setEntry location entry rest

def set (f : Folder) (location : Location) (entry : Entry) : Folder :=
  ⟨setEntry location entry f.entries⟩

/-- Follows names from a location. The last one need not exist. -/
def walk (f : Folder) (here : Location) : List String → Except FileError Location
  | [] => .ok here
  | name :: rest =>
    match f.entry? here with
    | none => .error .missing
    | some (.file _) => .error .notDirectory
    | some .directory =>
      if name = "." then f.walk here rest
      else if name = ".." then f.walk here.up rest
      else if 255 < name.utf8ByteSize then .error .nameTooLong
      else f.walk (name :: here) rest

def locate (f : Folder) (path : String) : Except FileError Location :=
  if path.toList.contains '\x00' then .error .zeroByte
  else if path = "" then .error .missing
  else if 4096 ≤ path.utf8ByteSize then .error .nameTooLong
  else f.walk (if path.toList.head? = some '/' then ["/"] else []) (pathNames path)

def find (f : Folder) (path : String) : Except FileError (Location × Entry) :=
  match f.locate path with
  | .error e => .error e
  | .ok location =>
    match f.entry? location with
    | some entry => .ok (location, entry)
    | none => .error .missing

/-- The contents of a file. A directory can be opened but not read. -/
def read (f : Folder) (path : String) : Except FileError ByteArray :=
  match f.find path with
  | .ok (_, .file contents) => .ok contents
  | .ok (_, .directory) => .error .isDirectory
  | .error e => .error e

def contentsAt (f : Folder) (location : Location) : ByteArray :=
  match f.entry? location with
  | some (.file contents) => contents
  | _ => .empty

def write (f : Folder) (path : String) (contents : ByteArray) : Except FileError Folder :=
  match f.locate path with
  | .error e => .error e
  | .ok location =>
    match f.entry? location with
    | some .directory => .error .isDirectory
    | _ => .ok (f.set location (.file contents))

def place (f : Folder) (entry : Entry) (here : Location) : List String → Folder
  | [] => f
  | "." :: rest => f.place entry here rest
  | ".." :: rest => f.place entry here.up rest
  | [name] => f.set (name :: here) entry
  | name :: rest => (f.set (name :: here) .directory).place entry (name :: here) rest

def contents (f : Folder) : List (String × Option ByteArray) :=
  (f.entries.filter (fun known => !known.1.isOutside)).map fun known =>
    match known.2 with
    | .directory => (known.1.text ++ "/", none)
    | .file contents => (known.1.text, some contents)

end Folder

end TableShell
