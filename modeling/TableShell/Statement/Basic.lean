import TableShell.Query

namespace TableShell

inductive Definition
  | columns (titles : List String)
  | query (query : Query)
  deriving DecidableEq, Repr

inductive Statement
  | create (name : String) (definition : Definition)
  | insert (table : String) (rows : List (List String))
  | load (name : String)
  | store (name : String)
  | print (name : String)
  | select (query : Query)
  | exit
  deriving DecidableEq, Repr

end TableShell
