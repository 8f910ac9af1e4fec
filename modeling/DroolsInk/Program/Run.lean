import DroolsInk.Files.FileFormat
import DroolsInk.Listing
import DroolsInk.Program.Arguments
import DroolsInk.Program.Log
import DroolsInk.Terminal

/-!
# A run of the program

A run is a function of its arguments, its environment and the files it can read. Its outcome is an
exit code, what it writes to standard output, and the lines it writes to standard error: log records
that the filter lets through, and errors.

All that can fail comes before anything is written to standard output: first the settings are
loaded, then the file is read. A file that is not UTF-8 is shown with replacement characters.
-/

namespace DroolsInk

/-- What a run gets from its surroundings. -/
structure Environment where
  settingsPath? : Option String := none
  home? : Option String := none
  /-- The choice of log records. -/
  log? : Option String := none
  isTerminal : Bool := false

/-- What a run does. -/
structure Outcome where
  exitCode : Nat
  output : List Char := []
  errors : List (List Char) := []
  deriving DecidableEq, Repr

namespace Outcome

/-- The lines of standard error; an entry may have line feeds in it. -/
def errorLines (outcome : Outcome) : List String :=
  outcome.errors.flatMap fun entry => (String.ofList entry).splitOn "\n"

end Outcome

namespace Program

def title : String := "drlhl 0.1.0"

/-- The text that explains the arguments. -/
def usage : List Char :=
  (title ++ " - Drools rule file highlighter\n" ++
    "\n" ++
    "Usage: drlhl [OPTIONS] FILE\n" ++
    "\n" ++
    "Options:\n" ++
    "  -t, --tokens   Print one line per token (line:col kind text)\n" ++
    "  -p, --plain    Print the file without colors\n" ++
    "  -h, --help     Show this help message\n" ++
    "  -V, --version  Show version information\n" ++
    "\n" ++
    "Environment:\n" ++
    "  DRLHL_CONFIG   Config file (default ~/.drlhl.toml)\n" ++
    "  DRLHL_LOG      Log filter, e.g. debug\n").toList

/-- The part of the program that shows files, as the log names it. -/
def target : String := "drlhl"

def modeName : Mode → String
  | .highlight => "Highlight"
  | .plain => "Plain"
  | .listing => "Tokens"

/-- The warning about a path without the extension of rule files. -/
def formatRecords (path : String) : List LogRecord :=
  if (FileFormat.ofPath? (Text.encode path.toList)).isSome then []
  else [⟨.warn, target, "not a .drl file, highlighting anyway", [("path", path.toList)]⟩]

/-- The record about the file that is shown. -/
def fileRecord (path : String) (mode : Mode) (text : List Char) : LogRecord :=
  ⟨.debug, target, "scanning file",
    [("path", path.toList), ("bytes", Listing.decimal (Text.size text)),
      ("mode", (modeName mode).toList)]⟩

/-- The warning about a token that is never closed. -/
def openRecords (text : List Char) : List LogRecord :=
  ((tokens text).find? (·.kind.isOpen)).toList.map fun token =>
    ⟨.warn, target, "unterminated token runs to end of file",
      [("offset", Listing.decimal token.start), ("kind", token.kind.name.toList)]⟩

/-- What is written for a text. -/
def display (settings : Settings) (isTerminal : Bool) (mode : Mode) (text : List Char) :
    List Char :=
  match mode with
  | .listing => Listing.ofText settings.tabWidth text
  | .highlight => if settings.color && isTerminal then Terminal.paint settings.theme text else text
  | .plain => text

/-- A run that fails with a message, after the records. -/
def failure (filter : LogFilter) (records : List LogRecord) (message : String) : Outcome :=
  let logged := (records.filter filter.allows).map LogRecord.render
  { exitCode := 1, errors := logged ++ [("Error: " ++ message).toList] }

/-- A run that shows a file. -/
def present (environment : Environment) (read : FileReader) (mode : Mode) (path : String) :
    Outcome :=
  let filter := LogFilter.ofChoice environment.log?
  let loading := Settings.load read (Settings.path? environment.settingsPath? environment.home?)
  match loading.result with
  | .error error => failure filter loading.records error.message
  | .ok settings =>
    let records := loading.records ++ formatRecords path
    match read path with
    | .error error => failure filter records error.message
    | .ok bytes =>
      let text := Text.decodeLossy bytes
      let records := records ++ fileRecord path mode text :: openRecords text
      { exitCode := 0
        output := display settings environment.isTerminal mode text
        errors := (records.filter filter.allows).map LogRecord.render }

def run (environment : Environment) (read : FileReader) (arguments : List String) : Outcome :=
  match Request.ofArguments arguments with
  | .help => { exitCode := 0, output := usage }
  | .version => { exitCode := 0, output := title.toList ++ ['\n'] }
  | .unknownOption option =>
    { exitCode := 2, output := usage, errors := [("Unknown option: " ++ option).toList] }
  | .nothing => { exitCode := 2, output := usage }
  | .present mode path => present environment read mode path

end Program

end DroolsInk
