/-!
# The command line

The arguments say what to do. A flag for help or for the version, or a flag that is not known,
decides the run where it stands, whatever comes after it. Otherwise the last flag for a way of
showing a file decides how, and the last argument that is no flag decides which.
-/

namespace DroolsInk

/-- How a file is shown. -/
inductive Mode where
  /-- In color, where color can be shown. -/
  | highlight
  /-- As it is. -/
  | plain
  /-- One line for each token. -/
  | listing
  deriving DecidableEq, Repr

inductive Request where
  | help
  | version
  | unknownOption (option : String)
  /-- There is nothing to show. -/
  | nothing
  | present (mode : Mode) (path : String)
  deriving DecidableEq, Repr

namespace Request

inductive Argument where
  | decisive (request : Request)
  | mode (mode : Mode)
  | path (path : String)
  deriving DecidableEq, Repr

/-- Tells what an argument is; a flag starts with a hyphen. -/
def Argument.ofText (text : String) : Argument :=
  if text = "--help" ∨ text = "-h" then .decisive .help
  else if text = "--version" ∨ text = "-V" then .decisive .version
  else if text = "--tokens" ∨ text = "-t" then .mode .listing
  else if text = "--plain" ∨ text = "-p" then .mode .plain
  else if text.toList.head? = some '-' then .decisive (.unknownOption text)
  else .path text

/-- Goes through arguments with the mode and the path found so far. -/
def after (mode : Mode) (path? : Option String) : List String → Request
  | [] =>
    match path? with
    | none => .nothing
    | some path => .present mode path
  | text :: rest =>
    match Argument.ofText text with
    | .decisive request => request
    | .mode mode => after mode path? rest
    | .path path => after mode (some path) rest

def ofArguments (arguments : List String) : Request := after .highlight none arguments

end Request

end DroolsInk
