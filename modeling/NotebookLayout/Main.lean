import NotebookLayout.Command.Run

/-!
# Command line

Reads the files that a run needs, runs the command and prints its output.
-/

namespace NotebookLayout.Main

/-- Why reading failed, with the number that the system gives the reason. -/
def readFault : IO.Error → String
  | .permissionDenied _ code details | .resourceExhausted _ code details
  | .hardwareFault code details | .otherError code details =>
    s!"{details} (os error {code})"
  | e => toString e

/-- What is found at a path of the file system. A path that leads nowhere is told apart from a file
that is there and cannot be read. -/
def lookUp (path : Text) : IO FileContent := do
  let name := String.ofList path
  try discard <| IO.FS.realPath name
  catch _ => return .missing
  try
    match String.fromUTF8? (← IO.FS.readBinFile name) with
    | some content => return .text content.toList
    | none => return .undecodable
  catch
    | .inappropriateType .. => return .directory
    | e => return .unreadable (readFault e)

/-- How the command is called. -/
def usage : String :=
  "Report cell intervals and leaf indents of a source file\n\n" ++
    "Usage: cellseg [OPTIONS] <FILE>\n\n" ++
    "Options:\n" ++
    "      --config <CONFIG>  Settings file in place of ~/.config/cellseg/config.toml\n" ++
    "      --indent           Also list every leaf with its indent\n" ++
    "      --toml             Print the report as TOML\n" ++
    "  -h, --help             Print help\n" ++
    "  -V, --version          Print version\n"

/-- The fault of the arguments in words. -/
def faultText : UsageError → String
  | .help => ""
  | .version => ""
  | .missingFile => "no file given"
  | .unknownArgument => "unexpected argument"
  | .repeatedOption => "an option is given twice"
  | .invalidValue => "a value is missing or empty"
  | .unwantedValue => "an option takes no value"

/-- Answers arguments that ask for no run. -/
def answerUsage : UsageError → IO UInt32
  | .help => do
    IO.print usage
    return 0
  | .version => do
    IO.println "cellseg 0.1.0"
    return 0
  | fault => do
    IO.eprint s!"error: {faultText fault}\n\n{usage}"
    return 2

/-- Runs the command. -/
def runWith (args : Arguments) : IO UInt32 := do
  let home := (← IO.getEnv "HOME").getD "~"
  let defaultPath := Settings.defaultPath home.toList
  let paths := [args.config.getD defaultPath, args.file]
  let found ← paths.mapM fun path => do return (path, ← lookUp path)
  match args.run .wrapping defaultPath fun path => (found.lookup path).getD .missing with
  | .ok output =>
    IO.print (String.ofList output)
    return 0
  | .error e =>
    IO.eprintln s!"Error: {e.message}"
    return 1

end NotebookLayout.Main

/-- The command line. -/
def main (args : List String) : IO UInt32 :=
  match NotebookLayout.Arguments.ofList (args.map (·.toList)) with
  | .error fault => NotebookLayout.Main.answerUsage fault
  | .ok args => NotebookLayout.Main.runWith args
