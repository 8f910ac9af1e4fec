import DroolsInk.Text.CellWidth

/-!
# Display columns

The column of a place in a line is the number of terminal cells before it. A tab moves to the next
multiple of the tab width, and any other character adds its own width. A tab width of zero counts
as one, so that a tab always moves.
-/

namespace DroolsInk.Text

def advanceColumn (tabWidth column : Nat) (c : Char) : Nat :=
  if c = '\t' then
    let tab := max tabWidth 1
    (column / tab + 1) * tab
  else
    column + cellWidth c

/-- The column after the characters of a line up to some place. -/
def columnAfter (tabWidth : Nat) (start : List Char) : Nat :=
  start.foldl (advanceColumn tabWidth) 0

theorem columnAfter_concat (tabWidth : Nat) (start : List Char) (c : Char) :
    columnAfter tabWidth (start ++ [c]) =
      advanceColumn tabWidth (columnAfter tabWidth start) c := by
  simp [columnAfter]

theorem le_advanceColumn (tabWidth column : Nat) (c : Char) :
    column ≤ advanceColumn tabWidth column c := by
  unfold advanceColumn
  split
  · have hpos : 0 < max tabWidth 1 := by omega
    have hsplit := Nat.div_add_mod column (max tabWidth 1)
    have hmod := Nat.mod_lt column hpos
    rw [Nat.add_mul, Nat.one_mul, Nat.mul_comm]
    omega
  · omega

end DroolsInk.Text
