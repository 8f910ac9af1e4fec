import DroolsInk.Theme.Basic
import DroolsInk.Token.Stream

/-!
# Text in color on a terminal

A terminal writes with a pen that control sequences change: two set the colors by their number in
the palette, three switch bold, italic and underline on, and one puts everything back. A token with
a plain face is written bare. Any other is written between the sequences for its face and two that
put everything back, the attributes first and then the colors, so that no face reaches the next
token.
-/

namespace DroolsInk.Terminal

/-- The number that a color is sent by; the default has none. -/
def colorNumber? : Color → Option Nat
  | .default => none
  | .black => some 0
  | .red => some 1
  | .green => some 2
  | .yellow => some 3
  | .blue => some 4
  | .magenta => some 5
  | .cyan => some 6
  | .white => some 7
  | .brightBlack => some 8
  | .brightRed => some 9
  | .brightGreen => some 10
  | .brightYellow => some 11
  | .brightBlue => some 12
  | .brightMagenta => some 13
  | .brightCyan => some 14
  | .brightWhite => some 15

theorem colorNumber?_eq_none_iff {color : Color} :
    colorNumber? color = none ↔ color = .default := by
  cases color <;> decide

def sequence (parameters : String) : List Char :=
  '\x1b' :: '[' :: (parameters.toList ++ ['m'])

/-- The sequence that sets a color, after `38` for the foreground and `48` for the background. The
default color needs none. -/
def colorSequence (layer : String) (color : Color) : List Char :=
  match colorNumber? color with
  | none => []
  | some index => sequence (layer ++ ";5;" ++ toString index)

/-- The sequences that give the pen a face. -/
def penDown (face : Face) : List Char :=
  colorSequence "38" face.foreground ++ colorSequence "48" face.background
    ++ (if face.bold then sequence "1" else [])
    ++ (if face.italic then sequence "3" else [])
    ++ (if face.underline then sequence "4" else [])

/-- The sequences that put the pen back. -/
def penUp : List Char := sequence "0" ++ sequence "0"

/-- A piece of text in a face. -/
def paintPiece (face : Face) (text : List Char) : List Char :=
  if face.isPlain then text else penDown face ++ text ++ penUp

/-- A whole text in the faces of a theme. -/
def paint (theme : Theme) (text : List Char) : List Char :=
  (tokens text).flatMap fun token => paintPiece (theme.faceOfKind token.kind) token.text

end DroolsInk.Terminal
