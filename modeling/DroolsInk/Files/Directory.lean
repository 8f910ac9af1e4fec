/-!
# Reading files

Reading a file gives its bytes or the reason why there are none. A `Directory` is the working
directory of a run as far as it matters: the files that it holds. A path may have components that
say nothing; one that goes through a file, or asks for a directory where a file stands, is refused.
Outside the directory there are directories above it, and no files.

A path that is too long is refused at once, and one with a name that is too long is refused when its
components are followed as far as that name.
-/

namespace DroolsInk

/-- Why a file cannot be read. -/
inductive ReadError where
  | notFound
  | isDirectory
  /-- A file stands where the path needs a directory. -/
  | notDirectory
  /-- The path, or a name in it, is longer than the system allows. -/
  | nameTooLong
  /-- The file is text, but not in UTF-8. -/
  | notUtf8
  /-- Any other reason, in the words and by the number of the operating system. -/
  | other (description : String) (code : Nat)
  deriving DecidableEq, Repr

/-- A reason in the words of the operating system, with its number. -/
def ReadError.withCode (description : String) (code : Nat) : String :=
  description ++ " (os error " ++ toString code ++ ")"

def ReadError.message (error : ReadError) : String :=
  let reason :=
    match error with
    | .notFound => withCode "No such file or directory" 2
    | .isDirectory => withCode "Is a directory" 21
    | .notDirectory => withCode "Not a directory" 20
    | .nameTooLong => withCode "File name too long" 36
    | .notUtf8 => "stream did not contain valid UTF-8"
    | .other description code => withCode description code
  "I/O error: " ++ reason

/-- What reading the file at a path gives. -/
abbrev FileReader := String → Except ReadError (List UInt8)

/-- The files of a directory by name. -/
structure Directory where
  files : List (String × List UInt8)

namespace Directory

def longestName : Nat := 255

def longestPath : Nat := 4095

/-- Follows the components of a path, from the directory or from outside of it. `slashed` says that
the path must lead to a directory. -/
def follow (directory : Directory) (inside slashed : Bool) :
    List String → Except ReadError (List UInt8)
  | [] => .error .isDirectory
  | name :: deeper =>
    if name = ".." then directory.follow false slashed deeper
    else if longestName < name.utf8ByteSize then .error .nameTooLong
    else
      match if inside then directory.files.lookup name else none with
      | none => .error .notFound
      | some bytes => if deeper.isEmpty && !slashed then .ok bytes else .error .notDirectory

def read (directory : Directory) : FileReader := fun path =>
  if path.isEmpty then .error .notFound
  else if longestPath < path.utf8ByteSize then .error .nameTooLong
  else
    let components := (path.splitOn "/").filter fun component => component ≠ "" ∧ component ≠ "."
    directory.follow (!path.startsWith "/") (path.endsWith "/" || path.endsWith "/.") components

end Directory

end DroolsInk
