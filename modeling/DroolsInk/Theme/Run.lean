import DroolsInk.Theme.Basic
import DroolsInk.Token.Stream

/-!
# Styled runs

Highlighting a text means listing the runs that do not look plain. A run is a range of byte offsets
and a face; every token whose face is not plain gives one run, in the order of the text.
-/

namespace DroolsInk

/-- A range of byte offsets, the end excluded, and the face it is shown in. -/
structure Run where
  start : Nat
  stop : Nat
  face : Face
  deriving DecidableEq, Repr

/-- The number of bytes of a run; none if it ends before it starts. -/
def Run.length (run : Run) : Nat := run.stop - run.start

def Run.isEmpty (run : Run) : Bool := run.stop ≤ run.start

theorem Run.isEmpty_iff {run : Run} : run.isEmpty = true ↔ run.length = 0 := by
  simp [Run.isEmpty, Run.length, Nat.sub_eq_zero_iff_le]

/-- The run of a range of a kind, unless it looks plain. -/
def Theme.run? (theme : Theme) (kind : Kind) (start stop : Nat) : Option Run :=
  let face := theme.faceOfKind kind
  if face.isPlain then none else some ⟨start, stop, face⟩

def Theme.runs (theme : Theme) (text : List Char) : List Run :=
  (tokens text).filterMap fun token => theme.run? token.kind token.start token.stop

end DroolsInk
