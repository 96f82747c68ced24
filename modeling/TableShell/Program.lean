import TableShell.CommandLine
import TableShell.Script
import TableShell.Text.Quoted

namespace TableShell

namespace Program

def banner : String := "minirel 0.1.0\n"

def help : String :=
  "A small relational database with a SQL-like statement language\n\n" ++
  "Usage: minirel [OPTIONS] [SCRIPT]\n\n" ++
  "Arguments:\n" ++
  "  [SCRIPT]  Read statements from this file instead of standard input\n\n" ++
  "Options:\n" ++
  "  -d, --dir <DIR>  Directory holding the <table>.db files used by load and store [default: .]\n" ++
  "  -q, --quiet      Do not print prompts\n" ++
  "  -h, --help       Print help\n" ++
  "  -V, --version    Print version\n"

def usage : String :=
  "error: the arguments cannot be understood\n\n" ++
  "Usage: minirel [OPTIONS] [SCRIPT]\n\nFor more information, try '--help'.\n"

def unopened (path : String) (e : FileError) : String :=
  "Error: " ++ Text.quoted s!"cannot open {path}: {e.text}" ++ "\n"

end Program

structure Program where
  code : Nat
  output : ByteArray
  errors : String
  folder : Folder

namespace Program

def session (c : CommandLine) (lines : List String) (folder : Folder) : Session :=
  let output :=
    if c.prompts then (Output.unlimited.write .prompt banner).2 else Output.unlimited
  .new lines c.dir folder output c.prompts

def ofEnded (ended : Session) : Program := ⟨0, ended.output.bytes, "", ended.folder⟩

/-- A script may also be one of the devices that hold nothing and the standard input. -/
def withDevices (input : ByteArray) (folder : Folder) : Folder :=
  ((folder.set ["dev", "/"] .directory).set ["null", "dev", "/"] (.file .empty)).set
    ["stdin", "dev", "/"] (.file input)

/-- Runs the program. A directory given as a script holds no statements. -/
def run (arguments : List String) (input : ByteArray) (folder : Folder) : Program :=
  let folder := withDevices input folder
  match CommandLine.ofArguments arguments with
  | .error .displayHelp => ⟨0, help.toUTF8, "", folder⟩
  | .error .displayVersion => ⟨0, banner.toUTF8, "", folder⟩
  | .error _ => ⟨2, .empty, usage, folder⟩
  | .ok c =>
    match c.script with
    | none => ofEnded (session c (Text.scriptLines input) folder).run.2
    | some path =>
      match folder.find path with
      | .error e => ⟨1, .empty, unopened path e, folder⟩
      | .ok (_, .directory) => ofEnded (session c [] folder).run.2
      | .ok (location, .file _) =>
        ofEnded ((Script.ofLocation location).run (session c [] folder)).2

end Program

end TableShell
