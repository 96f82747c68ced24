import TableShell.Database
import TableShell.Files.Folder
import TableShell.Statement.Basic
import TableShell.Table.File

namespace TableShell

inductive FileRequest
  | read (path : String)
  | write (path : String) (contents : ByteArray)

def Folder.serve (f : Folder) : Option FileRequest → Except FileError ByteArray × Folder
  | none => (.ok .empty, f)
  | some (.read path) => (f.read path, f)
  | some (.write path contents) =>
    match f.write path contents with
    | .ok f => (.ok .empty, f)
    | .error e => (.error e, f)

def Folder.target? (f : Folder) : Option FileRequest → Option Location
  | some (.write path _) => (f.locate path).toOption
  | _ => none

/-- The answer of a statement that does not fail, and the database after it has been written. -/
structure Effect where
  text : String
  database : Database
  /-- The session goes on. -/
  more : Bool

namespace Statement

def request (dir : String) (db : Database) : Statement → Option FileRequest
  | load name => some (.read (tablePath dir name))
  | store name => (db.get? name).map fun t => .write (tablePath dir name) t.fileText.toUTF8
  | _ => none

def definedTable (db : Database) : Definition → Except Fault Table
  | .columns titles => Table.ofTitles titles
  | .query q => db.select q

/-- Adds rows one after another. A row that is refused leaves those before it in the table. -/
def addRows (t : Table) : List Row → Except Fault Unit × Table
  | [] => (.ok (), t)
  | row :: rest =>
    match t.insert row with
    | .ok (_, t) => addRows t rest
    | .error fault => (.error fault, t)

/-- The widths of all rows are checked before the first one is added. -/
def insertRows (t : Table) (rows : List Row) : Except Fault Unit × Table :=
  match rows.find? (fun row => row.length ≠ t.width) with
  | some row => (.error (.arity t.width row.length), t)
  | none => addRows t rows

def loadedTable (path : String) : Except FileError ByteArray → Except Fault Table
  | .ok contents => Table.ofFile path contents
  | .error .missing => .error (.fileNotFound path)
  | .error e => .error (.file path e.text)

/-- The outcome of a statement, and the database before its answer is written. -/
def effect (dir : String) (db : Database) (file : Except FileError ByteArray) :
    Statement → Except Fault Effect × Database
  | create name definition =>
    ((definedTable db definition).map fun t => ⟨"", db.put name t, true⟩, db)
  | insert name rows =>
    match db.table name with
    | .error fault => (.error fault, db)
    | .ok t =>
      let inserted := insertRows t rows
      let db := db.put name inserted.2
      (inserted.1.map fun _ => ⟨"", db, true⟩, db)
  | load name =>
    ((loadedTable (tablePath dir name) file).map fun t =>
      ⟨s!"Loaded {name}.db\n", db.put name t, true⟩, db)
  | store name =>
    (do
      let _ ← db.table name
      match file with
      | .ok _ => return ⟨s!"Stored {name}.db\n", db, true⟩
      | .error e => .error (.file (tablePath dir name) e.text), db)
  | print name =>
    ((db.table name).map fun t => ⟨s!"Contents of {name}:\n" ++ t.listing, db, true⟩, db)
  | select q => ((db.select q).map fun t => ⟨"Search results:\n" ++ t.listing, db, true⟩, db)
  | exit => (.ok ⟨"", db, false⟩, db)

end Statement

end TableShell
