import DroolsInk.Files.Path
import DroolsInk.Text.Utf8

/-!
# File formats

A file format is recognised by the extension of a file, in which ASCII letters of both cases are
the same. Only one format is known, that of Drools rule files.
-/

namespace DroolsInk

/-- A file format that can be recognised by its extension. -/
structure FileFormat where
  name : String
  description : String
  /-- The extension, without its dot. -/
  extension : String
  deriving DecidableEq, Repr

namespace FileFormat

def drools : FileFormat := ⟨"Drools File", "Drools rule file", "drl"⟩

/-- A byte with an ASCII capital letter made small. -/
def lowerByte (byte : UInt8) : UInt8 := if 65 ≤ byte ∧ byte ≤ 90 then byte + 32 else byte

/-- Whether two byte sequences differ at most in the case of ASCII letters. -/
def sameUpToCase (first second : List UInt8) : Bool :=
  first.map lowerByte = second.map lowerByte

/-- Whether a path has the extension of the format. -/
def recognises (format : FileFormat) (path : List UInt8) : Bool :=
  (Path.extension? path).any (sameUpToCase · (Text.encode format.extension.toList))

def ofPath? (path : List UInt8) : Option FileFormat :=
  if drools.recognises path then some drools else none

end FileFormat

end DroolsInk
