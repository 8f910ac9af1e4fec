import DroolsInk.Token.Word

/-!
# Number literals

A number literal is hexadecimal, `0x` and hexadecimal digits, or decimal, digits with an optional
fraction and an optional exponent. A fraction needs a digit after its point and an exponent needs a
digit after its sign; where that digit is missing the literal ends before the point or the letter.
Word characters right after the literal belong to it: a type suffix as in `10L`, or a slip of the
pen as in `12abc`.

All lengths count characters after the first digit.
-/

namespace DroolsInk.Number

def isHexDigit (c : Char) : Bool :=
  c.isDigit || ('a' ≤ c && c ≤ 'f') || ('A' ≤ c && c ≤ 'F')

def digits (text : List Char) : Nat := (text.takeWhile Char.isDigit).length

/-- The length of a hexadecimal literal after its leading zero. -/
def hexTail? (first : Char) : List Char → Option Nat
  | mark :: rest =>
    let count := (rest.takeWhile isHexDigit).length
    if first = '0' ∧ (mark = 'x' ∨ mark = 'X') ∧ 0 < count then some (1 + count) else none
  | [] => none

/-- The length of a point and the digits after it, or zero. -/
def fraction : List Char → Nat
  | '.' :: rest => if digits rest = 0 then 0 else 1 + digits rest
  | _ => 0

def sign : List Char → Nat
  | '+' :: _ | '-' :: _ => 1
  | _ => 0

/-- The length of an exponent with its letter and sign, or zero. -/
def exponent : List Char → Nat
  | mark :: rest =>
    let count := digits (rest.drop (sign rest))
    if (mark = 'e' ∨ mark = 'E') ∧ 0 < count then 1 + sign rest + count else 0
  | [] => 0

/-- The length of a decimal literal after its first digit. -/
def decimalTail (rest : List Char) : Nat :=
  let whole := digits rest
  let part := fraction (rest.drop whole)
  whole + part + exponent (rest.drop (whole + part))

/-- The length of a number, word characters at its end included, after its first digit. -/
def tail (first : Char) (rest : List Char) : Nat :=
  let literal := (hexTail? first rest).getD (decimalTail rest)
  literal + Word.run (rest.drop literal)

end DroolsInk.Number
