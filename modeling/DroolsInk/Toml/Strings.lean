import DroolsInk.Toml.Chars

/-!
# TOML strings

There are four forms. A basic string stands between double quotes and knows escapes; a literal
string stands between single quotes and takes every character for itself. Each has a form with
three quotes that may go over several lines, in which a line end right after the opening quotes does
not count, a carriage return and a line feed count as a line feed, and up to two quotes may stand
right before the closing ones. In the basic form of these a backslash at the end of a line takes
away the line end and all blank space after it.
-/

namespace DroolsInk.Toml

/-- The character of so many hexadecimal digits, if it is a Unicode scalar value. -/
def codePoint? (count : Nat) (text : List Char) : Option (Char × List Char) := do
  let digits := text.take count
  let values ← digits.mapM hexDigit?
  if values.length ≠ count then none
  else
    let code := values.foldl (fun sum digit => 16 * sum + digit) 0
    if h : code.isValidChar then some (Char.ofNatAux code h, text.drop count) else none

/-- The character of an escape, after its backslash. -/
def escape? : List Char → Option (Char × List Char)
  | 'b' :: rest => some ('\x08', rest)
  | 't' :: rest => some ('\t', rest)
  | 'n' :: rest => some ('\n', rest)
  | 'f' :: rest => some ('\x0c', rest)
  | 'r' :: rest => some ('\r', rest)
  | '\"' :: rest => some ('\"', rest)
  | '\\' :: rest => some ('\\', rest)
  | 'u' :: rest => codePoint? 4 rest
  | 'U' :: rest => codePoint? 8 rest
  | _ => none

/-- What is left after blank space and line ends. -/
def skipBlankLines (text : List Char) : List Char :=
  match newline? (skipGap text) with
  | none => skipGap text
  | some after => if _h : after.length < text.length then skipBlankLines after else after
termination_by text.length

/-- What is left after a line end and the blank space around it, which a backslash before it takes
away. -/
def continuation? (text : List Char) : Option (List Char) :=
  (newline? (skipGap text)).map skipBlankLines

/-- The inside of a basic string and what is left after its closing quote. -/
def basicBody : List Char → Option (List Char × List Char)
  | [] => none
  | c :: rest =>
    if c = '\"' then some ([], rest)
    else if c = '\\' then
      match escape? rest with
      | none => none
      | some (d, after) =>
        if _h : after.length < (c :: rest).length then
          (basicBody after).map fun (inside, left) => (d :: inside, left)
        else none
    else if isPlain c then (basicBody rest).map fun (inside, left) => (c :: inside, left)
    else none
termination_by text => text.length
decreasing_by all_goals (simp only [List.length_cons] at *; omega)

/-- The inside of a literal string and what is left after its closing quote. -/
def literalBody (text : List Char) : Option (List Char × List Char) :=
  let inside := text.takeWhile fun c => c ≠ '\'' && isPlain c
  match text.drop inside.length with
  | '\'' :: rest => some (inside, rest)
  | _ => none

/-- The quotes before the closing three of a string of several lines, and what is left after these,
if the text starts with at least three quotes. -/
def closing? (mark : Char) (text : List Char) : Option (List Char × List Char) :=
  let count := (text.takeWhile (· = mark)).length
  if count < 3 then none
  else some (List.replicate (min count 5 - 3) mark, text.drop (min count 5))

/-- The next piece of a string of several lines: a character that it stands for, or none where the
line goes on, and what is left after it. -/
def longPiece? (mark : Char) : List Char → Option (List Char × List Char)
  | [] => none
  | c :: rest =>
    if c = '\\' ∧ mark = '\"' then
      match continuation? rest with
      | some after => some ([], after)
      | none => (escape? rest).map fun (d, after) => ([d], after)
    else
      match newline? (c :: rest) with
      | some after => some (['\n'], after)
      | none => if isPlain c then some ([c], rest) else none

/-- The inside of a string of several lines and what is left after it. -/
def longBody (mark : Char) (text : List Char) : Option (List Char × List Char) :=
  match closing? mark text with
  | some ending => some ending
  | none =>
    match longPiece? mark text with
    | none => none
    | some (piece, after) =>
      if _h : after.length < text.length then
        (longBody mark after).map fun (inside, left) => (piece ++ inside, left)
      else none
termination_by text.length

/-- A string of one line, as a key may be. -/
def shortString : Reader String := fun text =>
  match text with
  | '\"' :: rest => (basicBody rest).map fun (inside, left) => (String.ofList inside, left)
  | '\'' :: rest => (literalBody rest).map fun (inside, left) => (String.ofList inside, left)
  | _ => none

/-- A string of any form. -/
def anyString : Reader String := fun text =>
  match text with
  | '\"' :: '\"' :: '\"' :: rest => long '\"' rest
  | '\'' :: '\'' :: '\'' :: rest => long '\'' rest
  | _ => shortString text
where
  long (mark : Char) (rest : List Char) : Option (String × List Char) :=
    (longBody mark ((newline? rest).getD rest)).map fun (inside, left) =>
      (String.ofList inside, left)

end DroolsInk.Toml
