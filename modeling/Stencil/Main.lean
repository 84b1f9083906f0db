import Stencil.CommandLine

/-!
# The program

The outer layer: files of the machine, the log on standard error, and exit codes.
-/

namespace Stencil.Main

/-- The error that the machine reports. -/
def diskError : IO.Error → DiskError
  | .noFileOrDirectory .. => .notFound
  | .alreadyExists .. => .alreadyExists
  | .inappropriateType _ code details =>
    if code = 20 then .notDirectory else if code = 21 then .isDirectory else .other details
  | error => .other (toString error)

/-- An action whose failure is a value. -/
def attempt {α : Type} (action : IO α) : IO (Except DiskError α) := do
  try
    return .ok (← action)
  catch error =>
    return .error (diskError error)

/-- The text of a file of the machine. -/
def readText (path : Path) : IO (Except DiskError Text) := do
  match ← attempt (IO.FS.readBinFile path.text.string) with
  | .error error => return .error error
  | .ok bytes =>
    match String.fromUTF8? bytes with
    | some text => return .ok text.toList
    | none => return .error .notText

/-- The files of the machine are a disk, and the log goes to standard error. -/
instance : Disk IO where
  read := readText
  has path := do (← IO.FS.realPath path.text.string).pathExists
  makeDirectories path :=
    if path.text.isEmpty then pure (.ok ()) else attempt (IO.FS.createDirAll path.text.string)
  write path text := attempt (IO.FS.writeFile path.text.string text.string)
  note record := if record.isNotable then IO.eprintln record.line else pure ()

/-- The summary of the command line. -/
def usageText : String :=
  "Usage: flatgen [OPTIONS] [COMMAND]\n\n"
    ++ "Commands:\n"
    ++ "  init      Initialize a new flatgen project\n"
    ++ "  generate  Generate files from templates (default command)\n"
    ++ "  help      Print this message or the help of the given subcommand(s)\n\n"
    ++ "Options:\n"
    ++ "  -c, --config <CONFIG>    Path to the YAML configuration file [default: flatgen.yaml]\n"
    ++ "  -o, --output <OUTPUT>    Base output directory (overrides the config directory)\n"
    ++ "      --dry-run            Dry run mode - don't write files\n"
    ++ "      --include <INCLUDE>  Include job names (exact, glob with one '*', or regex:pattern)\n"
    ++ "      --exclude <EXCLUDE>  Exclude job names (exact, glob with one '*', or regex:pattern)\n"
    ++ "  -h, --help               Print help\n"
    ++ "  -V, --version            Print version"

/-- Run the program on its arguments. -/
def run (arguments : List String) : IO UInt32 := do
  match CommandLine.read (arguments.map String.toList) with
  | .error usage =>
    match usage with
    | .displayHelp => IO.println usageText
    | .displayVersion => IO.println "flatgen 0.1.0"
    | _ => IO.eprintln usageText
    return usage.exitCode.toUInt32
  | .ok command =>
    let action : ExceptT Project.Fault IO Unit := command.run
    match ← action.run with
    | .ok () => return 0
    | .error fault =>
      IO.eprint fault.report
      return 1

end Stencil.Main

/-- The program. -/
def main (arguments : List String) : IO UInt32 := Stencil.Main.run arguments
