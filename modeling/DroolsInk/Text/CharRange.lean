/-!
# Sets of characters given by ranges of code points

A Unicode property is a set of characters, and the standard publishes it as a list of ranges. This
module holds the one question that the tables are asked: whether a character lies in one of the
ranges. The tables themselves stand in modules named for their property.
-/

namespace DroolsInk.Text

structure CharRange where
  first : Nat
  last : Nat
  deriving DecidableEq, Repr

/-- Pairs of code points read as ranges; the tables are written this way to stay short. -/
def CharRange.ofPairs (pairs : List (Nat × Nat)) : List CharRange :=
  pairs.map fun pair => ⟨pair.1, pair.2⟩

def CharRange.contains (range : CharRange) (c : Char) : Bool :=
  range.first ≤ c.toNat && c.toNat ≤ range.last

def inRanges (ranges : List CharRange) (c : Char) : Bool :=
  ranges.any (·.contains c)

theorem inRanges_eq_true_iff {ranges : List CharRange} {c : Char} :
    inRanges ranges c = true ↔
      ∃ range ∈ ranges, range.first ≤ c.toNat ∧ c.toNat ≤ range.last := by
  simp [inRanges, CharRange.contains]

/-- Where no range of one table meets a range of the other, no character is in both. -/
theorem inRanges_eq_false_of_apart {ranges others : List CharRange} {c : Char}
    (h : ∀ range ∈ ranges, ∀ other ∈ others, range.last < other.first ∨ other.last < range.first)
    (hc : inRanges ranges c = true) : inRanges others c = false := by
  rw [Bool.eq_false_iff]
  intro hother
  obtain ⟨range, hrange, hfirst, hlast⟩ := inRanges_eq_true_iff.1 hc
  obtain ⟨other, hmem, hfirst', hlast'⟩ := inRanges_eq_true_iff.1 hother
  rcases h range hrange other hmem with hlt | hlt <;> omega

end DroolsInk.Text
