import DroolsInk.Toml.Chars
import DroolsInk.Toml.Value

/-!
# TOML numbers, truth values and dates

A number has no needless leading zero, and underscores may stand between two digits. An integer is
decimal with an optional sign, or hexadecimal, octal or binary without one, and must fit 64 bits
with a sign. A float has a fraction, an exponent or both, each with a digit at least; one that is
too large for the format is refused if it is positive and is the negative infinity if it is
negative. A date is taken before a number is tried, since both start with digits.
-/

namespace DroolsInk.Toml

/-! ## Integers and floats -/

/-- The digits of a number, with single underscores between them, and what is left. `value?` gives
the value of a digit. -/
def digitRun (value? : Char → Option Nat) : List Char → Option (List Nat × List Char)
  | [] => none
  | c :: rest =>
    match value? c, rest with
    | none, _ => none
    | some digit, '_' :: rest =>
      (digitRun value? rest).map fun (digits, left) => (digit :: digits, left)
    | some digit, rest =>
      if rest.head?.any fun next => (value? next).isSome then
        (digitRun value? rest).map fun (digits, left) => (digit :: digits, left)
      else some ([digit], rest)

def digitBelow (base : Nat) (c : Char) : Option Nat :=
  (hexDigit? c).filter (· < base)

/-- The number that digits make up, the first being the greatest. -/
def numeral (base : Nat) (digits : List Nat) : Nat :=
  digits.foldl (fun sum digit => base * sum + digit) 0

/-- A sign, and whether it is a minus. -/
def sign : List Char → Option Bool × List Char
  | '+' :: rest => (some false, rest)
  | '-' :: rest => (some true, rest)
  | text => (none, text)

/-- The magnitude of the least integer, which is one more than the greatest integer. -/
def leastMagnitude : Nat := Nat.pow 2 63

/-- The value of an integer, if it fits 64 bits with a sign. -/
def integerOf? (negative : Bool) (magnitude : Nat) : Option Value :=
  if negative then
    if magnitude ≤ leastMagnitude then some (.integer (-magnitude)) else none
  else
    if magnitude < leastMagnitude then some (.integer magnitude) else none

/-- The value of a float, unless it is positive and too large. -/
def floatOf? (negative : Bool) (digits : List Nat) (power : Int) : Option Value :=
  match Binary64.ofDecimal negative (numeral 10 digits) power with
  | .infinite false => none
  | number => some (.float number)

/-- The digits of a fraction after its point, or none if there is no point. -/
def fraction? : List Char → Option (Option (List Nat) × List Char)
  | '.' :: rest => (digitRun (digitBelow 10) rest).map fun (digits, left) => (some digits, left)
  | text => some (none, text)

/-- The value of an exponent after its letter, or none if there is no letter. -/
def exponent? (text : List Char) : Option (Option Int × List Char) :=
  match text with
  | [] => some (none, text)
  | c :: rest =>
    if c = 'e' ∨ c = 'E' then do
      let (minus, rest) := sign rest
      let (digits, left) ← digitRun (digitBelow 10) rest
      let magnitude : Int := numeral 10 digits
      return (some (if minus = some true then -magnitude else magnitude), left)
    else some (none, text)

/-- An integer with a base mark, after its zero. -/
def basedInteger (base : Nat) : Reader Value := fun text => do
  let (digits, left) ← digitRun (digitBelow base) text
  return (← integerOf? false (numeral base digits), left)

def decimalNumber : Reader Value := fun text => do
  let (minus, rest) := sign text
  let negative := minus = some true
  match rest with
  | 'i' :: _ => return (.float (.infinite negative), ← expectWord "inf" rest)
  | 'n' :: _ => return (.float .nan, ← expectWord "nan" rest)
  | '0' :: c :: _ =>
    -- a zero ends the whole part, whatever digit or underscore follows
    if c.isDigit ∨ c = '_' then none else ordinary negative rest
  | _ => ordinary negative rest
where
  ordinary (negative : Bool) (text : List Char) : Option (Value × List Char) := do
    let (whole, text) ← digitRun (digitBelow 10) text
    let (part?, text) ← fraction? text
    let (power?, text) ← exponent? text
    if part?.isNone && power?.isNone then
      return (← integerOf? negative (numeral 10 whole), text)
    else
      let part := part?.getD []
      return (← floatOf? negative (whole ++ part) (power?.getD 0 - part.length), text)

def number : Reader Value := fun text =>
  match text with
  | '0' :: 'x' :: rest => basedInteger 16 rest
  | '0' :: 'o' :: rest => basedInteger 8 rest
  | '0' :: 'b' :: rest => basedInteger 2 rest
  | _ => decimalNumber text

/-! ## Dates and times -/

/-- A number of exactly so many digits that lies between two bounds. -/
def fixedDigits (count low high : Nat) : Reader Nat := fun text => do
  let digits ← (text.take count).mapM (digitBelow 10)
  let number := numeral 10 digits
  if digits.length = count ∧ low ≤ number ∧ number ≤ high then some (number, text.drop count)
  else none

/-- A date, the day of which occurs in its month. -/
def date : Reader Date := fun text => do
  let (year, text) ← fixedDigits 4 0 9999 text
  let (month, text) ← fixedDigits 2 1 12 (← expect '-' text)
  let (day, text) ← fixedDigits 2 1 (daysInMonth year month) (← expect '-' text)
  return (⟨year, month, day⟩, text)

/-- The nanoseconds of a fraction of a second; digits after the ninth are dropped. -/
def nanoseconds : List Char → Nat × List Char
  | '.' :: rest =>
    let digits := rest.takeWhile Char.isDigit
    if digits.isEmpty then (0, '.' :: rest)
    else
      let kept := (digits.take 9).filterMap (digitBelow 10)
      (numeral 10 kept * Nat.pow 10 (9 - kept.length), rest.drop digits.length)
  | text => (0, text)

/-- A time of day with seconds. -/
def time : Reader Time := fun text => do
  let (hour, text) ← fixedDigits 2 0 23 text
  let (minute, text) ← fixedDigits 2 0 59 (← expect ':' text)
  let (second, text) ← fixedDigits 2 0 60 (← expect ':' text)
  let (nanosecond, text) := nanoseconds text
  return (⟨hour, minute, second, nanosecond⟩, text)

def timeOffset : Reader TimeOffset := fun text =>
  match text with
  | 'Z' :: rest | 'z' :: rest => some (.universal, rest)
  | '+' :: rest => fromUniversal 1 rest
  | '-' :: rest => fromUniversal (-1) rest
  | _ => none
where
  fromUniversal (direction : Int) (text : List Char) : Option (TimeOffset × List Char) := do
    let (hours, text) ← fixedDigits 2 0 23 text
    let (minutes, text) ← fixedDigits 2 0 59 (← expect ':' text)
    return (.minutes (direction * (60 * hours + minutes)), text)

/-- A date with or without a time, or a time. The time stands after a letter `T` or a space. -/
def dateTime : Reader DateTime := fun text =>
  match date text with
  | none => (time text).map fun (time, rest) => (⟨none, some time, none⟩, rest)
  | some (date, rest) =>
    match timeAfter rest with
    | none => some (⟨some date, none, none⟩, rest)
    | some (time, rest) =>
      match timeOffset rest with
      | none => some (⟨some date, some time, none⟩, rest)
      | some (offset, rest) => some (⟨some date, some time, some offset⟩, rest)
where
  timeAfter : List Char → Option (Time × List Char)
    | 'T' :: rest | 't' :: rest | ' ' :: rest => time rest
    | _ => none

/-- A whole text that is a date-time. -/
def DateTime.ofText? (text : List Char) : Option DateTime :=
  match dateTime text with
  | some (dateTime, []) => some dateTime
  | _ => none

/-- A value that starts with a sign or a digit: a date-time, or else a number. -/
def dateTimeOrNumber : Reader Value := fun text =>
  match dateTime text with
  | some (dateTime, rest) => some (.dateTime dateTime, rest)
  | none => number text

end DroolsInk.Toml
