import TableShell.Program

namespace TableShell.Main

def systemError : IO.Error → FileError
  | .noFileOrDirectory _ _ _ => .missing
  | .noSuchThing _ code text | .alreadyExists _ code text | .inappropriateType _ code text
  | .permissionDenied _ code text | .resourceExhausted _ code text
  | .invalidArgument _ code text => .system code.toNat text
  | .interrupted _ code text => .system code.toNat text
  | .otherError code text | .resourceBusy code text | .resourceVanished code text
  | .unsupportedOperation code text | .hardwareFault code text | .unsatisfiedConstraints code text
  | .illegalOperation code text | .protocolError code text | .timeExpired code text =>
    .system code.toNat text
  | .unexpectedEof => .system 0 "unexpected end of file"
  | .userError text => .system 0 text

/-- The bytes of a typed line, after those that have been read. -/
partial def typedLine (input : IO.FS.Stream) (line : ByteArray) : IO ByteArray := do
  let byte ← input.read 1
  if byte.isEmpty then return line
  if byte.toList = [10] then return line ++ byte
  typedLine input (line ++ byte)

/-- The next block of a file. The end is met once more after it has been seen, since the file may
have been written to. -/
def nextBlock (file : IO.FS.Handle) : IO ByteArray := do
  let bytes ← file.read Script.block.toUSize
  if bytes.isEmpty then file.read Script.block.toUSize else return bytes

/-- The bytes of a line of a script, after those that have been read. The block that is held has
been read up to a position in it. -/
partial def scriptLine (file : IO.FS.Handle) (held : IO.Ref (ByteArray × Nat))
    (line : ByteArray) : IO ByteArray := do
  let (bytes, start) ← held.get
  if start < bytes.size then
    match bytes.findIdx? (· == 10) start with
    | some i =>
      held.set (bytes, i + 1)
      return line ++ bytes.extract start (i + 1)
    | none =>
      held.set (.empty, 0)
      scriptLine file held (line ++ bytes.extract start bytes.size)
  else
    let bytes ← nextBlock file
    if bytes.isEmpty then return line
    held.set (bytes, 0)
    scriptLine file held line

structure Terminal where
  /-- The bytes of the next line, none at the end of input. -/
  line : IO ByteArray
  output : IO.FS.Stream
  prompting : Bool

namespace Terminal

def say (terminal : Terminal) (text : String) : IO Unit := do
  terminal.output.putStr text
  terminal.output.flush

/-- The next line. One that cannot be read counts as the end of input. -/
def line? (terminal : Terminal) : IO (Option String) := do
  try return (Text.scriptLines (← terminal.line)).head?
  catch _ => return none

/-- Reads lines until the next token is known. -/
partial def fill (terminal : Terminal) (tokens : Tokens) : IO Tokens := do
  if tokens.ready then return tokens
  if terminal.prompting then terminal.say tokens.source.prompt.text
  let source := match ← terminal.line? with
    | some text => tokens.source.enter text
    | none => tokens.source.close
  terminal.fill { tokens with source := { source with prompts := [] } }

partial def completeDraft (terminal : Terminal) (draft : Draft) (tokens : Tokens) :
    IO (Except Fault Statement × Tokens) := do
  match Reader.advance draft (← terminal.fill tokens) with
  | (.inl draft, tokens) => terminal.completeDraft draft tokens
  | (.inr answer, tokens) => return (answer, tokens)

partial def skipTokens (terminal : Terminal) (tokens : Tokens) : IO Tokens := do
  match Reader.skipOne (← terminal.fill tokens) with
  | (true, tokens) => return tokens
  | (false, tokens) => terminal.skipTokens tokens

end Terminal

def serve (request : Option FileRequest) : IO (Except FileError ByteArray) := do
  try
    match request with
    | none => return .ok .empty
    | some (.read path) => return .ok (← (← IO.FS.Handle.mk path .read).readBinToEnd)
    | some (.write path contents) =>
      IO.FS.writeBinFile path contents
      return .ok .empty
  catch e => return .error (systemError e)

partial def session (terminal : Terminal) (dir : String) (db : Database) (tokens : Tokens) :
    IO Unit := do
  match ← terminal.completeDraft .empty tokens.flush with
  | (.error fault, tokens) =>
    terminal.say (Session.report fault)
    session terminal dir db (← terminal.skipTokens tokens)
  | (.ok statement, tokens) =>
    let file ← serve (statement.request dir db)
    match statement.effect dir db file with
    | (.error fault, db) =>
      terminal.say (Session.report fault)
      session terminal dir db tokens
    | (.ok effect, _) =>
      terminal.say effect.text
      if effect.more then session terminal dir effect.database tokens

def start (c : CommandLine) (line : IO ByteArray) : IO UInt32 := do
  let terminal : Terminal := ⟨line, ← IO.getStdout, c.prompts⟩
  if c.prompts then terminal.say Program.banner
  session terminal c.dir .empty (.ofLines [])
  return 0

end TableShell.Main

open TableShell in
def main (arguments : List String) : IO UInt32 := do
  match CommandLine.ofArguments arguments with
  | .error .displayHelp =>
    IO.print Program.help
    return 0
  | .error .displayVersion =>
    IO.print Program.banner
    return 0
  | .error _ =>
    IO.eprint Program.usage
    return 2
  | .ok c =>
    match c.script with
    | none => Main.start c (Main.typedLine (← IO.getStdin) .empty)
    | some path =>
      match ← (IO.FS.Handle.mk path .read).toBaseIO with
      | .ok file => Main.start c (Main.scriptLine file (← IO.mkRef (.empty, 0)) .empty)
      | .error e =>
        IO.eprint (Program.unopened path (Main.systemError e))
        return 1
