import TableShell.Table.Basic

namespace TableShell.Table

def agree (left right : Table) (l r : Row) : Bool :=
  (right.titles.zip r).all fun column =>
    match Row.cell? left.titles l column.1 with
    | some cell => cell = column.2
    | none => true

def ownTitles (left right : Table) : List String :=
  right.titles.filter (· ∉ left.titles)

def combine (left right : Table) (l r : Row) : Row :=
  l ++ ((right.titles.zip r).filter (fun column => column.1 ∉ left.titles)).map Prod.snd

/-- The natural join. The rows of `left` are gone through once, those of `right` for each of
them. -/
def join (left right : Table) : Except Fault Table := do
  let joined ← ofTitles (left.titles ++ ownTitles left right)
  joined.insertAll (left.rows.flatMap fun l =>
    (right.rows.filter (agree left right l)).map (combine left right l))

end TableShell.Table
