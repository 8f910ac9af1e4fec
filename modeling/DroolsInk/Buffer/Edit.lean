import DroolsInk.Text.Offset

/-!
# Edits of a text

An edit puts a text in the place of a range of bytes. It can be made only if both ends of the range
are boundaries of the text and the range does not run backwards; otherwise it is refused and the
error tells the range and the size of the text.
-/

namespace DroolsInk

/-- Puts `text` in the place of the bytes from `start` up to, not including, `stop`. -/
structure Edit where
  start : Nat
  stop : Nat
  text : List Char
  deriving DecidableEq, Repr

/-- An edit that a text of `size` bytes does not allow. -/
structure EditError where
  start : Nat
  stop : Nat
  size : Nat
  deriving DecidableEq, Repr

def EditError.message (error : EditError) : String :=
  "Invalid edit " ++ toString error.start ++ ".." ++ toString error.stop ++ " for text of length "
    ++ toString error.size

namespace Edit

def insert (offset : Nat) (text : List Char) : Edit := ⟨offset, offset, text⟩

def delete (start stop : Nat) : Edit := ⟨start, stop, []⟩

/-- A text allows an edit if the range does not run backwards and both ends are boundaries. -/
def Fits (edit : Edit) (text : List Char) : Prop :=
  edit.start ≤ edit.stop ∧ edit.stop ≤ Text.size text ∧
    Text.IsBoundary text edit.start ∧ Text.IsBoundary text edit.stop

instance (edit : Edit) (text : List Char) : Decidable (edit.Fits text) :=
  inferInstanceAs (Decidable (_ ∧ _))

def splice (edit : Edit) (text : List Char) : Except EditError (List Char) :=
  match Text.splitAt? text edit.start, Text.splitAt? text edit.stop with
  | some (before, _), some (_, after) =>
    if edit.start ≤ edit.stop then .ok (before ++ edit.text ++ after)
    else .error ⟨edit.start, edit.stop, Text.size text⟩
  | _, _ => .error ⟨edit.start, edit.stop, Text.size text⟩

/-- Where an offset at or after the end of the range stands after the edit. -/
def moved (edit : Edit) (offset : Nat) : Nat :=
  offset - edit.stop + (edit.start + Text.size edit.text)

theorem moved_le_moved (edit : Edit) {first second : Nat} (h : first ≤ second) :
    edit.moved first ≤ edit.moved second := by
  unfold moved
  omega

theorem moved_eq (edit : Edit) {offset : Nat} (hrange : edit.start ≤ edit.stop)
    (h : edit.stop ≤ offset) :
    (edit.moved offset : Int)
      = offset + (Text.size edit.text - (edit.stop - edit.start : Nat) : Int) := by
  unfold moved
  omega

end Edit

end DroolsInk
