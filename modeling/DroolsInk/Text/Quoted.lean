import DroolsInk.Text.Printable

/-!
# Quoted text

A listing shows a piece of text between double quotes, on one line, so that every character can be
told from every other. Five characters and the backslash have short escapes; marks and characters
without a glyph are written by the hexadecimal digits of their code point; all others stand for
themselves. The single quote needs no escape.
-/

namespace DroolsInk.Text

/-- The code point of `c` in lower-case hexadecimal, between braces. -/
def codePointEscape (c : Char) : List Char :=
  '\\' :: 'u' :: '\x7b' :: (Nat.toDigits 16 c.toNat ++ ['\x7d'])

/-- Whether a reader would not see `c` for itself: it is a mark, or has no glyph. -/
def isHidden (c : Char) : Bool := isMark c || !isPrintable c

/-- How one character is written between quotes, where those in `hidden` are written by their code
points. -/
def escapeChar (hidden : Char → Bool) (c : Char) : List Char :=
  match c with
  | '\x00' => ['\\', '0']
  | '\t' => ['\\', 't']
  | '\r' => ['\\', 'r']
  | '\n' => ['\\', 'n']
  | '\"' => ['\\', '\"']
  | '\\' => ['\\', '\\']
  | c => if hidden c then codePointEscape c else [c]

def quoteHiding (hidden : Char → Bool) (text : List Char) : List Char :=
  '\"' :: (text.flatMap (escapeChar hidden) ++ ['\"'])

def quote (text : List Char) : List Char := quoteHiding isHidden text

end DroolsInk.Text
