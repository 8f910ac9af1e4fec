import DroolsInk.Decimal.Shortest
import DroolsInk.Toml.Mark

/-!
# TOML values in text

How a value is written where a message quotes it. Everything but a text is on one line.

A string takes the first of these forms that needs no escape: double quotes, single quotes, three
double quotes, three single quotes. If none will do, it takes double quotes with escapes, three of
them if it has a line feed. The forms of three quotes put a line end after the opening quotes if the
string has a line feed. In the forms between double quotes a tab is always escaped, and so is the
third of three double quotes in a row.

A float is written with all its digits and no exponent. The entries of a table are in the order of
their keys. A date-time inside another value stands for itself; one that is alone is written as the
table that stands for it.
-/

namespace DroolsInk.Toml

/-! ## Strings -/

/-- The length of the longest row of a character. -/
def longestRow (mark : Char) (text : List Char) : Nat :=
  (text.foldl (fun (row, longest) c =>
    if c = mark then (row + 1, max longest (row + 1)) else (0, longest)) (0, 0)).2

/-- Whether a character can only be written by an escape; tabs and line feeds can be written in
some form without. -/
def needsEscape (c : Char) : Bool :=
  (c.toNat < 32 && c ≠ '\t' && c ≠ '\n') || c.toNat = 127

/-- The code of an ASCII control in four hexadecimal digits. -/
def controlEscape (c : Char) : List Char :=
  let digits := (Nat.toDigits 16 c.toNat).map Char.toUpper
  '\\' :: 'u' :: (List.replicate (4 - digits.length) '0' ++ digits)

/-- The inside of a string between double quotes. `row` counts the double quotes right before, of
which `allowed` may stand in a row, and a line feed stands for itself if `long` says so. -/
def escapeInside (long : Bool) (allowed row : Nat) : List Char → List Char
  | [] => []
  | c :: rest =>
    if c = '\"' then
      if allowed ≤ row then '\\' :: '\"' :: escapeInside long allowed 0 rest
      else '\"' :: escapeInside long allowed (row + 1) rest
    else
      let written :=
        if c = '\\' then ['\\', '\\']
        else if c = '\x08' then ['\\', 'b']
        else if c = '\t' then ['\\', 't']
        else if c = '\n' then if long then ['\n'] else ['\\', 'n']
        else if c = '\x0c' then ['\\', 'f']
        else if c = '\r' then ['\\', 'r']
        else if needsEscape c then controlEscape c
        else [c]
      written ++ escapeInside long allowed 0 rest

def basicString (text : List Char) : List Char :=
  '\"' :: (escapeInside false 0 0 text ++ ['\"'])

def literalString (text : List Char) : List Char := '\'' :: (text ++ ['\''])

/-- A string between three quotes, given its inside. -/
def longString (mark : Char) (hasNewline : Bool) (inside : List Char) : List Char :=
  let marks := List.replicate 3 mark
  marks ++ (if hasNewline then ['\n'] else []) ++ inside ++ marks

/-- A string in the first form that suits it. -/
def renderString (text : List Char) : List Char :=
  let codes := text.any needsEscape
  let backslash := text.contains '\\'
  let newline := text.contains '\n'
  let doubles := longestRow '\"' text
  let singles := longestRow '\'' text
  if !codes && !backslash && doubles = 0 && !newline then basicString text
  else if !codes && singles = 0 && !newline then literalString text
  else if !codes && !backslash && doubles ≤ 2 then
    longString '\"' newline (escapeInside true 2 0 text)
  else if !codes && singles ≤ 2 then longString '\'' newline text
  else if newline then longString '\"' newline (escapeInside true 2 0 text)
  else basicString text

/-- A key: bare if it can be, or else between quotes. -/
def renderKey (key : List Char) : List Char :=
  if !key.isEmpty && key.all isBareKey then key
  else
    let codes := key.any fun c => needsEscape c || c = '\n'
    if !codes && !key.contains '\\' && !key.contains '\"' then basicString key
    else if !codes && !key.contains '\'' then literalString key
    else basicString key

/-! ## Numbers -/

/-- A float with all its digits; one without a fraction has a zero after its point. -/
def renderFloat : Binary64 → List Char
  | .nan => ['n', 'a', 'n']
  | .infinite negative => signed negative ['i', 'n', 'f']
  | .finite negative significand exponent =>
    signed negative
      (if significand = 0 then ['0', '.', '0']
      else (Shortest.ofFinite significand exponent).positional)
where
  signed (negative : Bool) (text : List Char) : List Char :=
    if negative then '-' :: text else text

def renderInteger (number : Int) : List Char :=
  let digits := Nat.toDigits 10 number.natAbs
  if number < 0 then '-' :: digits else digits

/-! ## Values -/

/-- Pieces with a comma and a space between them. -/
def separated : List (List Char) → List Char
  | [] => []
  | [last] => last
  | piece :: rest => piece ++ ',' :: ' ' :: separated rest

def braced (pieces : List (List Char)) : List Char :=
  if pieces.isEmpty then ['\x7b', '\x7d']
  else '\x7b' :: ' ' :: (separated pieces ++ [' ', '\x7d'])

def renderEntry (key : String) (value : List Char) : List Char :=
  renderKey key.toList ++ ' ' :: '=' :: ' ' :: value

mutual

/-- The text of a value inside another. -/
def Value.renderInside : Value → List Char
  | .string text => renderString text.toList
  | .integer number => renderInteger number
  | .float number => renderFloat number
  | .boolean true => ['t', 'r', 'u', 'e']
  | .boolean false => ['f', 'a', 'l', 's', 'e']
  | .dateTime moment => moment.render
  | .array items => '[' :: (separated (renderItems items) ++ [']'])
  | .table entries => braced ((sortByKey (renderEntries entries)).map Prod.snd)

def renderItems : List Value → List (List Char)
  | [] => []
  | item :: rest => item.renderInside :: renderItems rest

/-- The keys of a table with the texts of their entries. -/
def renderEntries : List (String × Value) → List (String × List Char)
  | [] => []
  | (key, value) :: rest => (key, renderEntry key value.renderInside) :: renderEntries rest

end

def Value.render : Value → List Char
  | .dateTime moment => braced [renderEntry dateTimeKey (renderString moment.render)]
  | value => value.renderInside

end DroolsInk.Toml
