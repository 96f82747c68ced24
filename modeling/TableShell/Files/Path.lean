namespace TableShell

/-- `name` seen from the directory `dir`. A name that starts with a slash is seen from
everywhere. -/
def joinPath (dir name : String) : String :=
  if name.toList.head? = some '/' then name
  else if dir = "" || dir.toList.getLast? = some '/' then dir ++ name
  else dir ++ "/" ++ name

def tablePath (dir name : String) : String := joinPath dir (name ++ ".db")

/-- The directories on the way and the last name of a path. A slash at the end asks for a
directory, as a dot there does. -/
def pathNames (path : String) : List String :=
  let names := (path.toList.splitOn '/').map String.ofList
  names.filter (· ≠ "") ++ if names.getLast? = some "" then ["."] else []

end TableShell
