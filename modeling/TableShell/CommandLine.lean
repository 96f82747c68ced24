namespace TableShell

inductive UsageError
  | unknownArgument
  | invalidValue
  | tooManyValues
  | argumentConflict
  | displayHelp
  | displayVersion
  deriving DecidableEq, Repr

structure CommandLine where
  /-- The file of statements; without one they come from standard input. -/
  script : Option String
  dir : String
  quiet : Bool
  deriving DecidableEq, Repr

namespace CommandLine

def prompts (c : CommandLine) : Bool := c.script.isNone && !c.quiet

/-- A value is looked at when the next argument that is known comes, or the end, and not before. So
of two faults the one that is found without looking at it comes first. -/
inductive Held
  | nothing
  | dir (value : Option String)
  | script (value : String)
  deriving DecidableEq, Repr

structure Given where
  script : Option String
  dir : Option String
  quiet : Bool
  held : Held
  /-- The one positional argument has been given. -/
  positional : Bool
  deriving DecidableEq, Repr

namespace Given

def empty : Given := ⟨none, none, false, .nothing, false⟩

def settle (p : Given) : Except UsageError Given :=
  match p.held with
  | .nothing => .ok p
  | .dir none => .error .invalidValue
  | .dir (some value) =>
    if p.dir.isSome then .error .argumentConflict
    else if value = "" then .error .invalidValue
    else .ok { p with dir := some value, held := .nothing }
  | .script value =>
    if value = "" then .error .invalidValue
    else .ok { p with script := some value, held := .nothing }

def setQuiet (p : Given) : Except UsageError Given := do
  let p ← p.settle
  if p.quiet then .error .argumentConflict else .ok { p with quiet := true }

def setDir (p : Given) (value : Option String) : Except UsageError Given := do
  let p := { ← p.settle with held := .dir value }
  if value.isSome then p.settle else .ok p

def stop (p : Given) (request : UsageError) : Except UsageError Given := do
  let _ ← p.settle
  .error request

def setPositional (p : Given) (value : String) : Except UsageError Given := do
  if p.positional then .error .unknownArgument
  else .ok { ← p.settle with held := .script value, positional := true }

/-- The letters after a single dash. The letter for the directory takes what follows it, and an
equals sign may stand between them. -/
def letters (p : Given) : List Char → Except UsageError Given
  | [] => .ok p
  | 'q' :: rest => do (← p.setQuiet).letters rest
  | 'h' :: _ => p.stop .displayHelp
  | 'V' :: _ => p.stop .displayVersion
  | ['d'] => p.setDir none
  | 'd' :: '=' :: value => p.setDir (some (String.ofList value))
  | 'd' :: value => p.setDir (some (String.ofList value))
  | _ => .error .unknownArgument

def flag (value : Option String) (result : Except UsageError Given) :
    Except UsageError Given :=
  if value.isSome then .error .tooManyValues else result

def long (p : Given) (text : List Char) : Except UsageError Given :=
  let name := String.ofList (text.takeWhile (· ≠ '='))
  let value := match text.dropWhile (· ≠ '=') with
    | [] => none
    | _ :: rest => some (String.ofList rest)
  match name with
  | "dir" => p.setDir value
  | "quiet" => flag value p.setQuiet
  | "help" => flag value (p.stop .displayHelp)
  | "version" => flag value (p.stop .displayVersion)
  | _ => .error .unknownArgument

def argument (p : Given) (text : String) : Except UsageError Given :=
  match text.toList with
  | '-' :: '-' :: rest => p.long rest
  | '-' :: c :: rest => p.letters (c :: rest)
  | _ => if p.held = .dir none then .ok { p with held := .dir (some text) }
    else p.setPositional text

def arguments (p : Given) : List String → Except UsageError Given
  | [] => p.settle
  | "--" :: rest => do (← rest.foldlM setPositional p).settle
  | text :: rest => do (← p.argument text).arguments rest

end Given

def ofArguments (texts : List String) : Except UsageError CommandLine := do
  let p ← Given.empty.arguments texts
  .ok ⟨p.script, p.dir.getD ".", p.quiet⟩

end CommandLine

end TableShell
