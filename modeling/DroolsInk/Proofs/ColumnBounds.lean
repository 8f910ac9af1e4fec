import Mathlib.Algebra.Group.Nat.Defs
import Mathlib.Order.Bounds.Basic
import DroolsInk.Proofs.Places
import DroolsInk.Proofs.UniqueKeys

/-!
# Columns stay within machine words

A listing counts columns in machine words, which hold numbers up to a limit. Here the same
computation is carried out with a check of every number that it comes to, sums and products alike,
and it gives nothing if one of them exceeds the limit.

One character moves the column by no more than the tab width or the width of the widest character,
and the numbers on the way to the new column do not exceed it. So every number that comes up after
so many characters is at most so many times the larger of the two. A column is counted over a part
of one line, and a tab width that was read from a settings file is at most 16. Words of 64 bits
would overflow only in a line of a length that no text has.
-/

namespace DroolsInk

/-- A number that does not exceed the limit. -/
def within? (limit value : Nat) : Option Nat := if value ≤ limit then some value else none

theorem within?_of_le {limit value : Nat} (h : value ≤ limit) : within? limit value = some value :=
  if_pos h

/-! ## 1. Columns in words -/

namespace Text

/-- The number of cells that the widest character takes. -/
def widestCell : Nat := 3

/-- The Khmer sign U+17D8 is as wide as a character can be. -/
theorem isGreatest_widestCell : IsGreatest (Set.range cellWidth) widestCell := by
  refine ⟨⟨Char.ofNat 0x17D8, by decide +kernel⟩, ?_⟩
  rintro _ ⟨c, rfl⟩
  exact cellWidth_le c

/-- `advanceColumn` with a check of every number. -/
def advanceColumnWithin? (limit tabWidth column : Nat) (c : Char) : Option Nat :=
  if c = '\t' then do
    let tab := max tabWidth 1
    let passed ← within? limit (column / tab)
    let next ← within? limit (passed + 1)
    within? limit (next * tab)
  else within? limit (column + cellWidth c)

/-- `columnAfter` with a check of every number. -/
def columnAfterWithin? (limit tabWidth : Nat) (start : List Char) : Option Nat :=
  start.foldlM (advanceColumnWithin? limit tabWidth) 0

/-- The most that one character moves the column by. -/
def longestStep (tabWidth : Nat) : Nat := max (max tabWidth 1) widestCell

variable {limit tabWidth column : Nat} {c : Char} {start : List Char}

theorem advanceColumn_le (tabWidth column : Nat) (c : Char) :
    advanceColumn tabWidth column c ≤ column + longestStep tabWidth := by
  unfold advanceColumn longestStep
  split
  · have hstop := Nat.div_mul_le_self column (max tabWidth 1)
    rw [Nat.add_mul, Nat.one_mul]
    omega
  · have hwidth := cellWidth_le c
    rw [widestCell]
    omega

/-- The numbers on the way to the next column do not exceed it. -/
theorem advanceColumnWithin?_of_le (h : column + longestStep tabWidth ≤ limit) :
    advanceColumnWithin? limit tabWidth column c = some (advanceColumn tabWidth column c) := by
  have hnext := Nat.le_trans (advanceColumn_le tabWidth column c) h
  unfold advanceColumnWithin? advanceColumn at *
  split at hnext
  · next htab =>
    have hpos : 0 < max tabWidth 1 := by omega
    have hmul := Nat.le_mul_of_pos_right (column / max tabWidth 1 + 1) hpos
    have hstop : column / max tabWidth 1 + 1 ≤ limit := Nat.le_trans hmul hnext
    rw [if_pos htab, if_pos htab]
    simp only [within?_of_le hnext, within?_of_le hstop, within?_of_le (Nat.le_of_succ_le hstop),
      bind, Option.bind]
  · next htab => rw [if_neg htab, if_neg htab, within?_of_le hnext]

theorem columnAfterWithin?_concat (limit tabWidth : Nat) (start : List Char) (c : Char) :
    columnAfterWithin? limit tabWidth (start ++ [c]) =
      (columnAfterWithin? limit tabWidth start).bind (advanceColumnWithin? limit tabWidth · c) := by
  simp [columnAfterWithin?, List.foldlM_append]

theorem columnAfter_le (tabWidth : Nat) (start : List Char) :
    columnAfter tabWidth start ≤ start.length * longestStep tabWidth := by
  induction start using List.reverseRecOn with
  | nil => exact Nat.zero_le _
  | append_singleton start c ih =>
    have hstep := advanceColumn_le tabWidth (columnAfter tabWidth start) c
    rw [columnAfter_concat, List.length_append, List.length_singleton, Nat.add_mul, Nat.one_mul]
    omega

/-- No number exceeds as many of the longest steps as there are characters. -/
theorem columnAfterWithin?_of_le (h : start.length * longestStep tabWidth ≤ limit) :
    columnAfterWithin? limit tabWidth start = some (columnAfter tabWidth start) := by
  induction start using List.reverseRecOn with
  | nil => rfl
  | append_singleton start c ih =>
    rw [List.length_append, List.length_singleton, Nat.add_mul, Nat.one_mul] at h
    have hcolumn := columnAfter_le tabWidth start
    rw [columnAfterWithin?_concat, ih (by omega), Option.bind_some, columnAfter_concat]
    exact advanceColumnWithin?_of_le (by omega)

theorem columnAfter_le_append (tabWidth : Nat) (start more : List Char) :
    columnAfter tabWidth start ≤ columnAfter tabWidth (start ++ more) := by
  induction more using List.reverseRecOn with
  | nil => rw [List.append_nil]
  | append_singleton more c ih =>
    rw [← List.append_assoc, columnAfter_concat]
    exact Nat.le_trans ih (le_advanceColumn tabWidth _ c)

end Text

/-! ## 2. Listings in words -/

namespace Listing

/-- The part of its line that stands before an offset. -/
def beforeInLine (table : Text.LineTable) (offset : Nat) : List Char :=
  (Text.cut (table.lineAt offset).rest (offset - (table.lineAt offset).start)).1

/-- `place` with a check of every number that its column comes from; the line has been found
already. -/
def placeWithin? (limit : Nat) (table : Text.LineTable) (tabWidth offset : Nat) : Option Place := do
  let column ← Text.columnAfterWithin? limit tabWidth (beforeInLine table offset)
  return ⟨table.numberAt offset + 1, ← within? limit (column + 1)⟩

/-- The entries of tokens with a check of every number that their columns come from. -/
def entriesWithin? (limit : Nat) (table : Text.LineTable) (tabWidth : Nat) :
    List Token → Option (List Char)
  | [] => some []
  | token :: rest => do
    let place ← placeWithin? limit table tabWidth token.start
    return entry Text.isHidden place token ++ (← entriesWithin? limit table tabWidth rest)

/-- `ofText` with a check of every number that its columns come from. -/
def ofTextWithin? (limit tabWidth : Nat) (text : List Char) : Option (List Char) :=
  entriesWithin? limit (.ofText text) tabWidth (tokens text)

variable {limit tabWidth offset : Nat} {table : Text.LineTable} {text : List Char} {token : Token}

theorem placeWithin?_of_lt
    (h : (beforeInLine table offset).length * Text.longestStep tabWidth < limit) :
    placeWithin? limit table tabWidth offset = some (place table tabWidth offset) := by
  have hcolumn := Text.columnAfter_le tabWidth (beforeInLine table offset)
  rw [placeWithin?, Text.columnAfterWithin?_of_le (by omega)]
  simp only [bind, Option.bind, within?_of_le (Nat.lt_of_le_of_lt hcolumn h)]
  rfl

theorem entriesWithin?_of_lt {list : List Token}
    (h : ∀ token ∈ list,
      (beforeInLine table token.start).length * Text.longestStep tabWidth < limit) :
    entriesWithin? limit table tabWidth list = some (list.flatMap fun token =>
      entry Text.isHidden (place table tabWidth token.start) token) := by
  induction list with
  | nil => rfl
  | cons token rest ih =>
    obtain ⟨htoken, hrest⟩ := List.forall_mem_cons.1 h
    rw [entriesWithin?, placeWithin?_of_lt htoken, ih hrest]
    rfl

theorem length_beforeInLine_le (h : token ∈ tokens text) :
    (beforeInLine (.ofText text) token.start).length ≤ text.length := by
  obtain ⟨before, after, rfl, hstart, -⟩ := Buffer.exists_parts_of_mem_tokens h
  obtain ⟨front, inLine, rfl, -, -, -, hat⟩ := exists_lineAt_size before (token.text ++ after)
  have hwidth : Text.size (front ++ inLine) - Text.size front = Text.size inLine := by
    rw [Text.size_append, Nat.add_sub_cancel_left]
  rw [List.append_assoc, beforeInLine, ← hstart, hat, hwidth, Text.cut_size_append]
  simp only [List.length_append]
  omega

end Listing

/-! ## 3. Tab widths from settings -/

/-- A tab width that was loaded is from 1 to 16. -/
theorem Settings.tabWidth_mem_of_load {read : FileReader} {path? : Option String}
    {settings : Settings} (h : (Settings.load read path?).result = .ok settings) :
    1 ≤ settings.tabWidth ∧ settings.tabWidth ≤ 16 := by
  have hdefault : ∀ given : Settings, Except.ok (ε := SettingsError) {} = .ok given →
      1 ≤ given.tabWidth ∧ given.tabWidth ≤ 16 := by
    intro given hgiven
    cases hgiven
    decide
  unfold Settings.load at h
  split at h
  · exact hdefault settings h
  · split at h
    · obtain ⟨-, table, -, -, hmeaning⟩ := Settings.isMeaningOf_of_ofBytes h
      exact hmeaning.tabWidth_mem
    · exact hdefault settings h
    · cases h

namespace Listing

/-- No number that comes up while columns are counted exceeds the number of the characters times the
tab width or the width of the widest character, and the column does not go back as characters are
added. So a place, and with it a listing, comes out in words of 64 bits, unless the part of the line
before it is too long for that. With settings that were loaded and a text of fewer than 2 ^ 59
characters none is. -/
theorem columnAfterWithin?_and_ofTextWithin? :
    IsGreatest (Set.range Text.cellWidth) Text.widestCell ∧
    (∀ tabWidth start, Text.columnAfterWithin? (start.length * max (max tabWidth 1) Text.widestCell)
      tabWidth start = some (Text.columnAfter tabWidth start)) ∧
    (∀ tabWidth start more,
      Text.columnAfter tabWidth start ≤ Text.columnAfter tabWidth (start ++ more)) ∧
    (∀ table tabWidth offset,
      (beforeInLine table offset).length * max (max tabWidth 1) Text.widestCell + 1 < 2 ^ 64 →
      placeWithin? (2 ^ 64 - 1) table tabWidth offset = some (place table tabWidth offset)) ∧
    (∀ tabWidth text, (∀ token ∈ tokens text, (beforeInLine (.ofText text) token.start).length
        * max (max tabWidth 1) Text.widestCell + 1 < 2 ^ 64) →
      ofTextWithin? (2 ^ 64 - 1) tabWidth text = some (ofText tabWidth text)) ∧
    ∀ read path? settings text, (Settings.load read path?).result = .ok settings →
      text.length < 2 ^ 59 →
      ofTextWithin? (2 ^ 64 - 1) settings.tabWidth text = some (ofText settings.tabWidth text) := by
  have hlisting : ∀ tabWidth text, (∀ token ∈ tokens text,
      (beforeInLine (.ofText text) token.start).length * Text.longestStep tabWidth + 1 < 2 ^ 64) →
      ofTextWithin? (2 ^ 64 - 1) tabWidth text = some (ofText tabWidth text) := by
    intro tabWidth text h
    exact entriesWithin?_of_lt fun token hmem => Nat.lt_sub_of_add_lt (h token hmem)
  refine ⟨Text.isGreatest_widestCell, ?_, Text.columnAfter_le_append, ?_, hlisting, ?_⟩
  · intro tabWidth start
    exact Text.columnAfterWithin?_of_le (Nat.le_refl _)
  · intro table tabWidth offset h
    exact placeWithin?_of_lt (Nat.lt_sub_of_add_lt h)
  · intro read path? settings text hload hlength
    apply hlisting
    intro token hmem
    have hwidth := (Settings.tabWidth_mem_of_load hload).2
    have hstep : Text.longestStep settings.tabWidth ≤ 16 := by
      rw [Text.longestStep, Text.widestCell]
      omega
    have hmost := Nat.mul_le_mul (length_beforeInLine_le hmem) hstep
    omega

example : Text.columnAfterWithin? 4 4 "ab\t".toList = some 4 ∧
    Text.columnAfterWithin? 3 4 "ab\t".toList = none := by
  decide

end Listing

end DroolsInk
