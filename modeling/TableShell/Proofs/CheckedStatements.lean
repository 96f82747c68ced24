import TableShell.Proofs.ColumnPositions
import TableShell.Session

namespace TableShell

namespace Table

def fileText? (t : Table) : Option String := do
  return String.join ((t.titles :: (← t.rows?)).map Row.line)

def listing? (t : Table) : Option String := do
  return String.join ((← t.sortedRows?).map fun row => "  " ++ " ".intercalate row ++ "\n")

def insertLines? (path : String) (t : Table) (number : Nat) :
    List (List UInt8) → Option (Except Fault Table)
  | [] => some (.ok t)
  | line :: rest => do
    match Row.ofLine path line with
    | .error fault => return .error fault
    | .ok row =>
      match locate path number (← t.insert? row) with
      | .error fault => return .error fault
      | .ok inserted => insertLines? path inserted.2 (number + 1) rest

def ofFile? (path : String) (contents : ByteArray) : Option (Except Fault Table) :=
  match Text.recordLines contents with
  | [] => some (.error (.format path 1 "missing header"))
  | header :: lines =>
    match Row.ofLine path header with
    | .error fault => some (.error fault)
    | .ok titles => do
      match locate path 1 (← ofTitles? titles) with
      | .error fault => return .error fault
      | .ok t => insertLines? path t 2 lines

theorem Valid.fileText?_eq {t : Table} (h : t.Valid) : t.fileText? = some t.fileText := by
  rw [fileText?, h.rows?_eq]
  rfl

theorem Valid.listing?_eq {t : Table} (h : t.Valid) : t.listing? = some t.listing := by
  rw [listing?, h.sortedRows?_eq]
  rfl

theorem Valid.insertLines?_eq {t : Table} (h : t.Valid) (path : String) (number : Nat)
    (lines : List (List UInt8)) :
    insertLines? path t number lines = some (insertLines path t number lines) := by
  induction lines generalizing t number with
  | nil => rfl
  | cons line rest ih =>
    rw [insertLines?, insertLines]
    cases Row.ofLine path line with
    | error fault => rfl
    | ok row =>
      simp only [h.insert?_eq, Option.bind_eq_bind, Option.bind_some]
      change _ = some (locate path number (t.insert row) >>= fun inserted =>
        insertLines path inserted.2 (number + 1) rest)
      cases hi : t.insert row with
      | error fault => rfl
      | ok inserted => exact ih (h.insert hi) (number + 1)

theorem ofFile?_eq (path : String) (contents : ByteArray) :
    ofFile? path contents = some (ofFile path contents) := by
  rw [ofFile?, ofFile]
  cases Text.recordLines contents with
  | nil => rfl
  | cons header lines =>
    dsimp only
    cases Row.ofLine path header with
    | error fault => rfl
    | ok titles =>
      simp only [ofTitles?_eq, Option.bind_eq_bind, Option.bind_some]
      change _ = some (locate path 1 (ofTitles titles) >>= fun t => insertLines path t 2 lines)
      cases ht : ofTitles titles with
      | error fault => rfl
      | ok t => exact (valid_ofTitles ht).insertLines?_eq path 2 lines

end Table

namespace Statement

def request? (dir : String) (db : Database) : Statement → Option (Option FileRequest)
  | load name => some (some (.read (tablePath dir name)))
  | store name =>
    match db.get? name with
    | none => some none
    | some t => do return some (.write (tablePath dir name) (← t.fileText?).toUTF8)
  | _ => some none

def definedTable? (db : Database) : Definition → Option (Except Fault Table)
  | .columns titles => Table.ofTitles? titles
  | .query q => db.select? q

def addRows? (t : Table) : List Row → Option (Except Fault Unit × Table)
  | [] => some (.ok (), t)
  | row :: rest => do
    match ← t.insert? row with
    | .ok (_, t) => addRows? t rest
    | .error fault => return (.error fault, t)

def insertRows? (t : Table) (rows : List Row) : Option (Except Fault Unit × Table) :=
  match rows.find? (fun row => row.length ≠ t.width) with
  | some row => some (.error (.arity t.width row.length), t)
  | none => addRows? t rows

def loadedTable? (path : String) : Except FileError ByteArray → Option (Except Fault Table)
  | .ok contents => do
    let loaded ← Table.ofFile? path contents
    if let .ok t := loaded then let _ ← t.size?
    return loaded
  | .error .missing => some (.error (.fileNotFound path))
  | .error e => some (.error (.file path e.text))

def effect? (dir : String) (db : Database) (file : Except FileError ByteArray) :
    Statement → Option (Except Fault Effect × Database)
  | create name definition => do
    return ((← definedTable? db definition).map fun t => ⟨"", db.put name t, true⟩, db)
  | insert name rows =>
    match db.table name with
    | .error fault => some (.error fault, db)
    | .ok t => do
      let inserted ← insertRows? t rows
      let db := db.put name inserted.2
      return (inserted.1.map fun _ => ⟨"", db, true⟩, db)
  | load name => do
    return ((← loadedTable? (tablePath dir name) file).map fun t =>
      ⟨s!"Loaded {name}.db\n", db.put name t, true⟩, db)
  | print name =>
    match db.table name with
    | .error fault => some (.error fault, db)
    | .ok t => do return (.ok ⟨s!"Contents of {name}:\n" ++ (← t.listing?), db, true⟩, db)
  | select q => do
    match ← db.select? q with
    | .error fault => return (.error fault, db)
    | .ok t => return (.ok ⟨"Search results:\n" ++ (← t.listing?), db, true⟩, db)
  | statement => some (effect dir db file statement)

variable {db : Database}

theorem request?_eq (h : db.Valid) (dir : String) (statement : Statement) :
    statement.request? dir db = some (statement.request dir db) := by
  cases statement with
  | store name =>
    rw [request?, request]
    cases hg : db.get? name with
    | none => rfl
    | some t =>
      dsimp only
      rw [(h name t hg).fileText?_eq]
      rfl
  | _ => rfl

theorem definedTable?_eq (h : db.Valid) (definition : Definition) :
    definedTable? db definition = some (definedTable db definition) := by
  cases definition with
  | columns titles => exact Table.ofTitles?_eq titles
  | query q => exact Database.select?_eq h q

theorem addRows?_eq {t : Table} (h : t.Valid) (rows : List Row) :
    addRows? t rows = some (addRows t rows) := by
  induction rows generalizing t with
  | nil => rfl
  | cons row rest ih =>
    rw [addRows?, h.insert?_eq, addRows]
    cases hi : t.insert row with
    | error fault => rfl
    | ok inserted => exact ih (h.insert hi)

theorem insertRows?_eq {t : Table} (h : t.Valid) (rows : List Row) :
    insertRows? t rows = some (insertRows t rows) := by
  rw [insertRows?, insertRows]
  cases rows.find? (fun row => row.length ≠ t.width) with
  | some row => rfl
  | none => exact addRows?_eq h rows

theorem loadedTable?_eq (path : String) (file : Except FileError ByteArray) :
    loadedTable? path file = some (loadedTable path file) := by
  cases file with
  | error e => cases e <;> rfl
  | ok contents =>
    simp only [loadedTable?, loadedTable, Table.ofFile?_eq, Option.bind_eq_bind, Option.bind_some]
    cases hf : Table.ofFile path contents with
    | error fault => rfl
    | ok t =>
      dsimp only
      rw [(Table.valid_ofFile hf).size?_eq]
      rfl

theorem effect?_eq (h : db.Valid) (dir : String) (file : Except FileError ByteArray)
    (statement : Statement) :
    statement.effect? dir db file = some (statement.effect dir db file) := by
  cases statement with
  | create name definition =>
    rw [effect?, definedTable?_eq h]
    rfl
  | insert name rows =>
    rw [effect?, effect]
    cases ht : db.table name with
    | error fault => rfl
    | ok t =>
      dsimp only
      rw [insertRows?_eq (h name t (Database.get?_of_table ht))]
      rfl
  | load name =>
    rw [effect?, loadedTable?_eq]
    rfl
  | store name => rfl
  | print name =>
    rw [effect?, effect]
    cases ht : db.table name with
    | error fault => rfl
    | ok t =>
      dsimp only
      rw [(h name t (Database.get?_of_table ht)).listing?_eq]
      rfl
  | select q =>
    rw [effect?, Database.select?_eq h, effect]
    simp only [Option.bind_eq_bind, Option.bind_some]
    cases hs : db.select q with
    | error fault => rfl
    | ok t =>
      dsimp only
      rw [(Database.valid_select hs).listing?_eq]
      rfl
  | exit => rfl

end Statement

namespace Session

def execute? (s : Session) (statement : Statement) : Option (Except Fault Bool × Session) := do
  let served := s.folder.serve (← statement.request? s.dir s.database)
  let carried ← statement.effect? s.dir s.database served.1
  let s := { s with folder := served.2, database := carried.2 }
  match carried.1 with
  | .error fault => return (.error fault, s)
  | .ok effect =>
    match s.output.write .answer effect.text with
    | (true, output) => return (.ok effect.more, { s with output, database := effect.database })
    | (false, output) => return (.error outputFull, { s with output })

theorem execute?_eq {s : Session} (h : s.database.Valid) (statement : Statement) :
    s.execute? statement = some (s.execute statement) := by
  simp only [execute?, Statement.request?_eq h, Option.bind_eq_bind, Option.bind_some,
    Statement.effect?_eq h, execute]
  generalize statement.effect s.dir s.database
    (s.folder.serve (statement.request s.dir s.database)).1 = carried
  obtain ⟨outcome, db⟩ := carried
  cases outcome with
  | error fault => rfl
  | ok effect =>
    dsimp only
    cases s.output.write .answer effect.text with
    | mk fits output => cases fits <;> rfl

end Session

end TableShell
