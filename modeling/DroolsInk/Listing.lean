import DroolsInk.Text.Columns
import DroolsInk.Text.Lines
import DroolsInk.Text.Quoted
import DroolsInk.Token.Stream

/-!
# Token listings

A listing has one line for each token: the line and the display column at which it starts, both
counted from one, then the name of its kind, then its text in quotes. The quotes hide line feeds, so
that the lines of a listing are its entries.
-/

namespace DroolsInk.Listing

/-- A place in a text as a reader counts it, from one. -/
structure Place where
  line : Nat
  column : Nat
  deriving DecidableEq, Repr

/-- The place of a byte offset: the line that holds it, and the column after the part of that line
which stands before it. -/
def place (table : Text.LineTable) (tabWidth offset : Nat) : Place :=
  let line := table.lineAt offset
  let before := (Text.cut line.rest (offset - line.start)).1
  ⟨table.numberAt offset + 1, Text.columnAfter tabWidth before + 1⟩

def decimal (number : Nat) : List Char := Nat.toDigits 10 number

/-- The line of a listing for a token at a place. -/
def entry (hidden : Char → Bool) (place : Place) (token : Token) : List Char :=
  decimal place.line ++ ':' :: (decimal place.column ++ ' ' :: (token.kind.name.toList
    ++ ' ' :: (Text.quoteHiding hidden token.text ++ ['\n'])))

/-- A listing that writes the characters in `hidden` by their code points. -/
def ofTextHiding (hidden : Char → Bool) (tabWidth : Nat) (text : List Char) : List Char :=
  let table := Text.LineTable.ofText text
  (tokens text).flatMap fun token => entry hidden (place table tabWidth token.start) token

def ofText (tabWidth : Nat) (text : List Char) : List Char :=
  ofTextHiding Text.isHidden tabWidth text

end DroolsInk.Listing
