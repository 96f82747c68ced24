import TableShell.Fault

namespace TableShell

abbrev Row := List String

namespace Row

def cell? (titles : List String) (row : Row) (title : String) : Option String :=
  (titles.zip row).lookup title

def select (titles : List String) (row : Row) (columns : List String) : Row :=
  columns.filterMap (cell? titles row)

end Row

/-- Distinct rows of text, in the order in which they were inserted. The index is kept as rows are
inserted: a new row is looked for from the smallest row on, and the first greater row ends the
search. -/
structure Table where
  titles : List String
  rows : List Row
  /-- The positions of the rows, in ascending order of the rows. -/
  index : List Nat
  deriving DecidableEq, Repr

namespace Table

def firstRepeated? (seen : List String) : List String → Option String
  | [] => none
  | title :: rest => if title ∈ seen then some title else firstRepeated? (title :: seen) rest

def ofTitles (titles : List String) : Except Fault Table :=
  if titles = [] then .error .noColumns
  else match firstRepeated? [] titles with
    | some title => .error (.duplicateColumn title)
    | none => .ok ⟨titles, [], []⟩

def width (t : Table) : Nat := t.titles.length

def size (t : Table) : Nat := t.rows.length

def rowAt (rows : List Row) (k : Nat) : Row := rows.getD k []

/-- The number of positions before the one where a row belongs. The rows at the positions ascend.
There is none if the row is one of them. -/
def rank? (rows : List Row) (row : Row) : List Nat → Option Nat
  | [] => some 0
  | k :: later =>
    match compare (rowAt rows k) row with
    | .lt => (rank? rows row later).map (· + 1)
    | .eq => none
    | .gt => some 0

/-- Adds a row unless it is there already, and tells whether it was added. -/
def insert (t : Table) (row : Row) : Except Fault (Bool × Table) :=
  if row.length ≠ t.width then .error (.arity t.width row.length)
  else match rank? t.rows row t.index with
    | none => .ok (false, t)
    | some rank =>
      .ok (true, { t with rows := t.rows ++ [row], index := t.index.insertIdx rank t.size })

def insertAll (t : Table) (rows : List Row) : Except Fault Table :=
  rows.foldlM (fun t row => (t.insert row).map Prod.snd) t

def sortedRows (t : Table) : List Row := t.index.map (rowAt t.rows)

def cell (t : Table) (row column : Nat) : Except Fault String :=
  match (t.rows[row]?).bind (·[column]?) with
  | some value => .ok value
  | none => .error (.invalidAccess row column)

def row (t : Table) (row : Nat) : Except Fault Row :=
  match t.rows[row]? with
  | some cells => .ok cells
  | none => .error (.invalidAccess row 0)

def column? (t : Table) (title : String) : Option Nat := t.titles.idxOf? title

def listing (t : Table) : String :=
  String.join (t.sortedRows.map fun row => "  " ++ " ".intercalate row ++ "\n")

end Table

end TableShell
