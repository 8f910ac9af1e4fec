import DroolsInk.Text.Blank
import DroolsInk.Token.Kind
import DroolsInk.Token.Number

/-!
# Where the first token of a text ends

The first character of a text decides what kind of token may start there, and `classify` says which
kind it is and how many further characters belong to it. Nothing but the text from that place on is
consulted, so that the tokens after any boundary are the same whatever stands before it.

A string literal ends at the first quote of its own sort that no backslash takes away: a backslash
takes away the character after it, whichever it is. A block comment ends at the first `*/` after its
`/*`. A line comment ends before the line feed or carriage return that follows it. An operator is
one character, or two if they are one of sixteen pairs.
-/

namespace DroolsInk.Token

/-- The number of characters up to the closing quote, the quote included; `passed` counts those
gone by already. -/
def stringEnd? (mark : Char) (passed : Nat) : List Char → Option Nat
  | [] => none
  | c :: rest =>
    if c = mark then some (passed + 1)
    else if c = '\\' then
      match rest with
      | [] => none
      | _ :: rest => stringEnd? mark (passed + 2) rest
    else stringEnd? mark (passed + 1) rest

/-- The number of characters up to the closing `*/`, both included; `passed` counts those gone by
already. -/
def commentEnd? (passed : Nat) : List Char → Option Nat
  | '*' :: '/' :: _ => some (passed + 2)
  | _ :: rest => commentEnd? (passed + 1) rest
  | [] => none

def endsLine (c : Char) : Bool := c == '\n' || c == '\r'

def lineLength (text : List Char) : Nat := (text.takeWhile (!endsLine ·)).length

def operatorChars : List Char :=
  ['=', '!', '<', '>', '+', '-', '*', '/', '%', '&', '|', '^', '~', '?', ':', '.']

def operatorPairs : List (Char × Char) :=
  [('=', '='), ('!', '='), ('!', '.'), ('<', '='), ('>', '='), ('&', '&'), ('|', '|'), ('-', '>'),
    (':', ':'), (':', '='), ('+', '='), ('-', '='), ('*', '='), ('/', '='), ('+', '+'), ('-', '-')]

/-- The kind of a string literal and its length after the opening quote. -/
def stringExtent (mark : Char) (rest : List Char) : Kind × Nat :=
  match stringEnd? mark 0 rest with
  | some length => (.string, length)
  | none => (.openString, rest.length)

/-- A word, a keyword or a hyphenated keyword. -/
def wordExtent (first : Char) (rest : List Char) : Kind × Nat :=
  match Word.hyphenatedKeyword? (first :: rest) with
  | some keyword => (.keyword, keyword.length - 1)
  | none =>
    let length := Word.run rest
    (if Word.isKeyword (first :: rest.take length) then .keyword else .identifier, length)

/-- A sign that makes a word after it a name of the given kind, and is nothing by itself. -/
def sigilExtent (kind : Kind) (rest : List Char) : Kind × Nat :=
  (if Word.run rest = 0 then .unknown else kind, Word.run rest)

def operatorExtent (first : Char) (rest : List Char) : Kind × Nat :=
  (.operator, if rest.head?.any fun second => (first, second) ∈ operatorPairs then 1 else 0)

/-- What a slash starts: a comment of either sort, or an operator. -/
def slashExtent (rest : List Char) : Kind × Nat :=
  match rest with
  | '/' :: rest => (.comment, 1 + lineLength rest)
  | '*' :: rest =>
    match commentEnd? 0 rest with
    | some length => (.comment, 1 + length)
    | none => (.openComment, 1 + rest.length)
  | _ => operatorExtent '/' rest

/-- What a character that is no blank, digit or letter starts. -/
def symbolExtent (first : Char) (rest : List Char) : Kind × Nat :=
  match first with
  | '\"' | '\'' => stringExtent first rest
  | '/' => slashExtent rest
  | '#' => (.comment, lineLength rest)
  | '$' => sigilExtent .boundVariable rest
  | '@' => sigilExtent .metadata rest
  | '\x7b' | '\x7d' | '(' | ')' | '[' | ']' => (.delimiter, 0)
  | ',' | ';' => (.punctuation, 0)
  | _ => if first ∈ operatorChars then operatorExtent first rest else (.unknown, 0)

/-- The kind of the token at the start of a text, and the number of characters that belong to it
after the first. -/
def classify (first : Char) (rest : List Char) : Kind × Nat :=
  if Text.isBlank first then (.blank, (rest.takeWhile Text.isBlank).length)
  else if first.isDigit then (.number, Number.tail first rest)
  else if Word.isStart first then wordExtent first rest
  else symbolExtent first rest

end DroolsInk.Token
