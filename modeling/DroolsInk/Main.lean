import DroolsInk.Program.Run

/-!
# The program

`main` gives a run its arguments, its environment and the files, and does what its outcome says. It
decides nothing.
-/

namespace DroolsInk

/-- The number of a system error, which may be given as a negative one. -/
def systemCode (code : UInt32) : Nat :=
  if code < 0x80000000 then code.toNat else 0x100000000 - code.toNat

/-- The reason that the operating system gives, by its number and in its words. -/
def ReadError.ofCode (code : UInt32) (details : String) : ReadError :=
  match systemCode code with
  | 2 => .notFound
  | 20 => .notDirectory
  | 21 => .isDirectory
  | 36 => .nameTooLong
  | number => .other details.capitalize number

/-- Why the operating system did not read a file. -/
def ReadError.ofSystem : IO.Error → ReadError
  | .noFileOrDirectory _ code details => .ofCode code details
  | .inappropriateType _ code details => .ofCode code details
  | .permissionDenied _ code details => .ofCode code details
  | .invalidArgument _ code details => .ofCode code details
  | .resourceExhausted _ code details => .ofCode code details
  | .hardwareFault code details => .ofCode code details
  | error => .other (toString error) 0

def readFile (path : String) : IO (Except ReadError (List UInt8)) := do
  try
    let bytes ← IO.FS.readBinFile path
    return .ok bytes.toList
  catch error => return .error (.ofSystem error)

/-- Reads the files that a run may ask for: the one to show and the one with the settings. -/
def readerFor (environment : Environment) (arguments : List String) : IO FileReader := do
  match Request.ofArguments arguments with
  | .present _ path =>
    let mut known : List (String × Except ReadError (List UInt8)) := []
    let settings? := Settings.path? environment.settingsPath? environment.home?
    for file in settings?.toList ++ [path] do
      known := (file, ← readFile file) :: known
    let files := known
    return fun file => (files.lookup file).getD (.error .notFound)
  | _ => return fun _ => .error .notFound

end DroolsInk

def main (arguments : List String) : IO UInt32 := do
  let output ← IO.getStdout
  let errors ← IO.getStderr
  let environment : DroolsInk.Environment := {
    settingsPath? := ← IO.getEnv "DRLHL_CONFIG"
    home? := ← IO.getEnv "HOME"
    log? := ← IO.getEnv "DRLHL_LOG"
    isTerminal := ← output.isTty }
  let read ← DroolsInk.readerFor environment arguments
  let outcome := DroolsInk.Program.run environment read arguments
  for line in outcome.errorLines do
    errors.putStrLn line
  output.putStr (String.ofList outcome.output)
  output.flush
  return outcome.exitCode.toUInt32
