/-!
# Names and extensions of files

A path is a sequence of bytes, as the file system has it. Slashes part it into components. Empty
components and those that are a single dot say nothing, so that a slash at the end, or a slash and a
dot, does not change which file is meant.

The file name is the last component, unless it goes up a directory. Its extension is what stands
after its last dot, provided that something stands before that dot.
-/

namespace DroolsInk.Path

def slash : UInt8 := 47

def dot : UInt8 := 46

/-- The components of a path that say something. -/
def components (path : List UInt8) : List (List UInt8) :=
  (path.splitOn slash).filter fun component => component ≠ [] ∧ component ≠ [dot]

def fileName? (path : List UInt8) : Option (List UInt8) :=
  (components path).getLast?.filter (· ≠ [dot, dot])

/-- What stands after the last dot of a file name. -/
def extensionOfName? (name : List UInt8) : Option (List UInt8) :=
  let extension := (name.reverse.takeWhile (· ≠ dot)).reverse
  let stem := name.take (name.length - extension.length - 1)
  if stem = [] then none else some extension

def extension? (path : List UInt8) : Option (List UInt8) :=
  (fileName? path).bind extensionOfName?

/-- A path in a directory: the directory, a slash if it does not end with one, and the name. An
empty directory adds nothing. -/
def join (directory name : String) : String :=
  if directory.isEmpty ∨ directory.toList.getLast? = some '/' then directory ++ name
  else directory ++ "/" ++ name

end DroolsInk.Path
