/-!
# Characters and blank space of TOML

What may stand in a comment, a string or a bare key, and the blank space between them. A reader
takes characters off the front of a text and gives what it read and what is left, or nothing if the
text does not start with what it looks for.
-/

namespace DroolsInk.Toml

/-- Takes something off the front of a text. -/
abbrev Reader (α : Type) := List Char → Option (α × List Char)

/-- A space or a tab, the blank space inside a line. -/
def isGap (c : Char) : Bool := c = ' ' || c = '\t'

/-- A tab, or any character that is no ASCII control. -/
def isPlain (c : Char) : Bool := c = '\t' || (32 ≤ c.toNat && c.toNat ≠ 127)

def isBareKey (c : Char) : Bool := c.isAlphanum || c = '_' || c = '-'

def hexDigit? (c : Char) : Option Nat :=
  if c.isDigit then some (c.toNat - 48)
  else if 'a' ≤ c ∧ c ≤ 'f' then some (c.toNat - 87)
  else if 'A' ≤ c ∧ c ≤ 'F' then some (c.toNat - 55)
  else none

def skipGap (text : List Char) : List Char := text.dropWhile isGap

/-- What is left after a line feed, or a carriage return and a line feed. -/
def newline? : List Char → Option (List Char)
  | '\n' :: rest => some rest
  | '\r' :: '\n' :: rest => some rest
  | _ => none

/-- What is left of the line when its comment is taken away, if it has one. -/
def skipComment : List Char → List Char
  | '#' :: rest => rest.dropWhile isPlain
  | text => text

/-- What is left after the end of a line: blank space, a comment, and a line end or the end of the
text. -/
def endOfLine? (text : List Char) : Option (List Char) :=
  match skipComment (skipGap text) with
  | [] => some []
  | rest => newline? rest

/-- What is left after blank space, line ends and comments. -/
def skipLines (text : List Char) : Option (List Char) :=
  match skipGap text with
  | [] => some []
  | c :: rest =>
    if c = '#' ∨ c = '\n' ∨ c = '\r' then
      match newline? (skipComment (c :: rest)) with
      | none => none
      | some after => if _h : after.length < text.length then skipLines after else none
    else some (c :: rest)
termination_by text.length

def expect (c : Char) : List Char → Option (List Char)
  | d :: rest => if d = c then some rest else none
  | [] => none

def expectWord (word : String) (text : List Char) : Option (List Char) :=
  if word.toList.isPrefixOf text then some (text.drop word.length) else none

end DroolsInk.Toml
