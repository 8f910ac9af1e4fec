import DroolsInk.Theme.Color

/-!
# Faces

A face is how a piece of text looks on a terminal: its two colors and whether it is bold, italic
or underlined. The plain face leaves everything as the terminal has it.
-/

namespace DroolsInk

/-- How a piece of text looks. -/
structure Face where
  foreground : Color := .default
  background : Color := .default
  bold : Bool := false
  italic : Bool := false
  underline : Bool := false
  deriving DecidableEq, Repr

/-- The face that changes nothing. -/
def Face.plain : Face where

def Face.ofColor (color : Color) : Face where
  foreground := color

def Face.isPlain (face : Face) : Bool := face = .plain

@[simp] theorem Face.isPlain_iff {face : Face} : face.isPlain = true ↔ face = .plain := by
  simp [Face.isPlain]

end DroolsInk
