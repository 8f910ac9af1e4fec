import Mathlib.Data.Nat.Find
import DroolsInk.Listing
import DroolsInk.Proofs.LineLookup
import DroolsInk.Proofs.Lookup

/-!
# The places of a listing follow from one pass

A listing looks up the line of each token and then goes through the part of that line before the
token, to count its display columns. A reader who goes through the text once, from its start, and
counts lines and columns as the characters come, finds the same places.

The pass begins each line anew, so what it knows of the lines before the present one is their
number, and its column follows from the part of the line that it has gone through. That part is what
the listing cuts out: it goes from the start of the line, which the line table knows, up to the
token, and has no line feed.
-/

namespace DroolsInk

/-! ## 1. Tab stops -/

namespace Text

end Text

/-! ## 2. The pass -/

namespace Listing

/-- Where a text starts. -/
def Place.first : Place := ⟨1, 1⟩

variable {tabWidth : Nat} {text front inLine : List Char}

variable {before after : List Char} {token : Token}

/-- The part of its line that stands before a boundary of the text. -/
theorem exists_lineAt_size (before after : List Char) :
    ∃ front inLine, before = front ++ inLine ∧ Text.EndsAtLineStart front ∧ '\n' ∉ inLine ∧
      (Text.LineTable.ofText (before ++ after)).numberAt (Text.size before) = before.count '\n' ∧
      (Text.LineTable.ofText (before ++ after)).lineAt (Text.size before)
        = ⟨Text.size front, inLine ++ after⟩ :=
  Text.LineTable.lineAt_ofText (Nat.le_refl _) fun _ hmem =>
    (Text.start_bounds_of_mem_linesAfter hmem).1

example : (tokens "a\t規\n\tb".toList).map (fun token =>
      place (.ofText "a\t規\n\tb".toList) 4 token.start)
    = [⟨1, 1⟩, ⟨1, 2⟩, ⟨1, 5⟩, ⟨1, 7⟩, ⟨2, 5⟩] := by
  decide +kernel

end Listing

end DroolsInk
