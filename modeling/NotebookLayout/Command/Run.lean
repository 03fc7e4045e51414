import NotebookLayout.Command.Arguments
import NotebookLayout.Report.Toml

/-!
# Running the command

The settings are loaded first, then the file is read and reported on. What is found at a path is
given by a function, so that a run is one too; so is what becomes of sums that do not fit.
-/

namespace NotebookLayout

/-- Why a run fails. -/
inductive CommandError where
  /-- The settings cannot be loaded. -/
  | settings (cause : SettingsError)
  /-- There is no settings file at the path given for it. -/
  | noSettings (path : Text)
  /-- The file to report on cannot be read. -/
  | unreadable (path : Text)
  /-- There is no report. -/
  | report (cause : ReportError)
  deriving DecidableEq

/-- The text of the error. -/
def CommandError.message : CommandError → String
  | .settings cause => cause.message
  | .noSettings path => "config file not found: " ++ String.ofList path
  | .unreadable path => "Failed to read " ++ String.ofList path
  | .report cause => cause.message

namespace Arguments

/-- The settings of a run: those at the path given, which have to be there, or those at the default
path or in place of them the defaults. -/
def loadSettings (args : Arguments) (defaultPath : Text) (read : Text → FileContent) :
    Except CommandError Settings :=
  match args.config with
  | some path => do
    match ← (Settings.load path (read path)).mapError .settings with
    | some settings => return settings
    | none => throw (.noSettings path)
  | none => do
    let settings ← (Settings.load defaultPath (read defaultPath)).mapError .settings
    return settings.getD {}

/-- What a run prints. -/
def run (args : Arguments) (arith : Arithmetic) (defaultPath : Text)
    (read : Text → FileContent) : Except CommandError Text := do
  let settings ← args.loadSettings defaultPath read
  match read args.file with
  | .text content =>
    let report ← (Report.ofText arith content settings args.indent).mapError .report
    return if args.toml then report.toToml else report.render args.indent
  | _ => throw (.unreadable args.file)

end Arguments

end NotebookLayout
