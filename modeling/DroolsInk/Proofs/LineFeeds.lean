import Mathlib.Data.Finset.Lattice.Fold
import Mathlib.Data.Finset.Range
import Mathlib.Order.Lattice.Nat
import DroolsInk.Proofs.AscendingSearch
import DroolsInk.Proofs.Boundaries
import DroolsInk.Proofs.LineLookup
import DroolsInk.Proofs.Tiling

/-!
# Lines told from line feeds

Offsets count bytes, and so which line an offset belongs to can be told from the bytes of the text:
as many lines come before it as line feeds stand before the offset, and it starts one past the last
of them, or at zero if there is none. The line table gives the same. Its starts are zero and the
places one past a line feed, in ascending order, and those that do not exceed an offset are a first
part of them.

A line may also be looked up by any search in ascending arrays, which answers with the start that it
met or with the place where the offset would go. The first line starts at zero, so there is always a
line before that place, and every such lookup finds the line that the table finds by halving.
-/

namespace DroolsInk.Text

variable {text : List Char} {c : Char} {offset index base start place : Nat}

/-! ## 1. Line feeds in the bytes of a text -/

/-- The byte of a line feed stands for a line feed, and is no part of another character. -/
theorem getElem?_utf8EncodeChar_eq_lineFeed_iff :
    (String.utf8EncodeChar c)[index]? = some 0x0A ↔ c = '\n' ∧ index = 0 := by
  constructor
  · intro h
    have hindex : index = 0 := by
      have hcontinues := isContinuation_getElem?_iff h
      simpa [isContinuation] using hcontinues
    subst hindex
    refine ⟨Char.ext (UInt32.toNat_inj.1 ?_), rfl⟩
    change c.val.toNat = 10
    have hcode := val_toNat_lt c
    unfold String.utf8EncodeChar at h
    dsimp only at h
    generalize c.val.toNat = code at *
    -- A character of several bytes starts with a greater one.
    repeat' split at h
    all_goals
      simp only [List.getElem?_cons_zero, Option.some.injEq, ← UInt8.toNat_inj, UInt8.toNat_ofNat',
        UInt8.reduceToNat] at h
      omega
  · rintro ⟨rfl, rfl⟩
    rfl

theorem getElem?_encode_cons_eq_lineFeed_iff :
    (encode (c :: text))[place]? = some 0x0A ↔
      c = '\n' ∧ place = 0 ∨
        ∃ later, (encode text)[later]? = some 0x0A ∧ c.utf8Size + later = place := by
  rw [encode_cons]
  rcases Nat.lt_or_ge place c.utf8Size with hlt | hge
  · rw [List.getElem?_append_left (by simpa using hlt), getElem?_utf8EncodeChar_eq_lineFeed_iff]
    refine (or_iff_left ?_).symm
    rintro ⟨later, -, rfl⟩
    exact absurd hlt (Nat.not_lt.2 (Nat.le_add_right _ _))
  · obtain ⟨later, rfl⟩ := Nat.exists_eq_add_of_le hge
    have hsize : c.utf8Size ≠ 0 := Nat.ne_of_gt c.utf8Size_pos
    rw [List.getElem?_append_right (by simp), String.length_utf8EncodeChar, Nat.add_sub_cancel_left]
    simp [hsize]

/-- The lines start one past each line feed. -/
theorem mem_start_linesAfter_iff :
    start ∈ (linesAfter base text).map Line.start ↔
      ∃ place, (encode text)[place]? = some 0x0A ∧ base + place + 1 = start := by
  induction text generalizing base with
  | nil => simp [linesAfter, encode]
  | cons c text ih =>
    have hlater : start ∈ (linesAfter (base + c.utf8Size) text).map Line.start ↔
        ∃ later, (encode text)[later]? = some 0x0A ∧ base + (c.utf8Size + later) + 1 = start := by
      simp only [ih, Nat.add_assoc]
    by_cases hfeed : c = '\n'
    · subst hfeed
      have hsize : '\n'.utf8Size = 1 := rfl
      rw [linesAfter, if_pos rfl, List.map_cons, List.mem_cons, hlater]
      simp [getElem?_encode_cons_eq_lineFeed_iff, or_and_right, exists_or, hsize,
        eq_comm (a := start)]
    · rw [linesAfter, if_neg hfeed, hlater]
      simp [getElem?_encode_cons_eq_lineFeed_iff, hfeed]

theorem pairwise_linesAfter (base : Nat) (text : List Char) :
    (linesAfter base text).Pairwise fun first second => first.start < second.start := by
  induction text generalizing base with
  | nil => exact List.Pairwise.nil
  | cons c text ih =>
    rw [linesAfter]
    split
    · refine List.pairwise_cons.2 ⟨?_, ih _⟩
      intro line hmem
      exact (start_bounds_of_mem_linesAfter hmem).1
    · exact ih _

/-- The offsets before `offset` at which a line feed stands among the bytes of the text. -/
def feedsBefore (text : List Char) (offset : Nat) : Finset Nat :=
  {place ∈ Finset.range offset | (encode text)[place]? = some 0x0A}

theorem mem_feedsBefore_iff :
    place ∈ feedsBefore text offset ↔ place < offset ∧ (encode text)[place]? = some 0x0A := by
  rw [feedsBefore, Finset.mem_filter, Finset.mem_range]

theorem monotone_feedsBefore (text : List Char) : Monotone (feedsBefore text) := by
  intro first second hle place hmem
  obtain ⟨hlt, hfeed⟩ := mem_feedsBefore_iff.1 hmem
  exact mem_feedsBefore_iff.2 ⟨Nat.lt_of_lt_of_le hlt hle, hfeed⟩

namespace LineTable

/-! ## 2. The starts of the lines -/

/-- The offsets at which the lines start, in order. -/
def starts (table : LineTable) : Array Nat := table.lines.map Line.start

theorem toList_starts_ofText (text : List Char) :
    (ofText text).starts.toList = 0 :: (linesAfter 0 text).map Line.start := by
  rw [starts, lines_ofText, List.map_toArray]
  rfl

theorem mem_starts_ofText_iff :
    start ∈ (ofText text).starts.toList ↔
      start = 0 ∨ ∃ place, (encode text)[place]? = some 0x0A ∧ place + 1 = start := by
  rw [toList_starts_ofText, List.mem_cons, mem_start_linesAfter_iff]
  simp only [Nat.zero_add]

theorem pairwise_lines_ofText (text : List Char) :
    (Line.mk 0 text :: linesAfter 0 text).Pairwise
      fun first second => first.start < second.start := by
  refine List.pairwise_cons.2 ⟨?_, pairwise_linesAfter 0 text⟩
  intro line hmem
  exact (start_bounds_of_mem_linesAfter hmem).1

theorem pairwise_starts_ofText (text : List Char) :
    (ofText text).starts.toList.Pairwise (· < ·) := by
  rw [toList_starts_ofText, ← List.map_cons (f := Line.start) (a := Line.mk 0 text),
    List.pairwise_map]
  exact pairwise_lines_ofText text

/-- The lines of the table up to `line` start at or before the offset, and those after it do not. -/
structure PartsAt (table : LineTable) (offset : Nat) (early : List Line) (line : Line)
    (later : List Line) : Prop where
  lines_eq : table.lines = (early ++ line :: later).toArray
  le_offset : ∀ other ∈ early ++ [line], other.start ≤ offset
  offset_lt : ∀ other ∈ later, offset < other.start

variable {table : LineTable} {early later : List Line} {line : Line}

theorem exists_partsAt_ofText (text : List Char) (offset : Nat) :
    ∃ early line later, (ofText text).PartsAt offset early line later := by
  have hascends : (Line.mk 0 text :: linesAfter 0 text).Pairwise fun first second =>
      decide (second.start ≤ offset) = true → decide (first.start ≤ offset) = true := by
    apply (pairwise_lines_ofText text).imp
    intro first second hlt hsecond
    exact decide_eq_true (Nat.le_of_lt (Nat.lt_of_lt_of_le hlt (of_decide_eq_true hsecond)))
  have hfirst : decide ((Line.mk 0 text).start ≤ offset) = true := decide_eq_true (Nat.zero_le _)
  obtain ⟨early, line, later, hlines, hearly, hlater⟩ := exists_last_of_pairwise hascends hfirst
  refine ⟨early, line, later, ?_, ?_, ?_⟩
  · rw [lines_ofText, hlines]
  · exact fun other hmem => of_decide_eq_true (hearly other hmem)
  · exact fun other hmem => Nat.not_le.1 (of_decide_eq_false (hlater other hmem))

theorem PartsAt.toList_starts (h : table.PartsAt offset early line later) :
    table.starts.toList = (early ++ [line]).map Line.start ++ later.map Line.start := by
  rw [starts, h.lines_eq, List.append_cons, List.map_toArray, List.map_append]

theorem PartsAt.mem_start_iff (h : table.PartsAt offset early line later) :
    start ∈ (early ++ [line]).map Line.start ↔ start ∈ table.starts.toList ∧ start ≤ offset := by
  rw [h.toList_starts, List.mem_append]
  constructor
  · intro hmem
    obtain ⟨other, hother, rfl⟩ := List.mem_map.1 hmem
    exact ⟨Or.inl hmem, h.le_offset other hother⟩
  · rintro ⟨hmem | hmem, hle⟩
    · exact hmem
    · obtain ⟨other, hother, rfl⟩ := List.mem_map.1 hmem
      exact absurd hle (Nat.not_le.2 (h.offset_lt other hother))

theorem PartsAt.pairwise_starts (h : (ofText text).PartsAt offset early line later) :
    ((early ++ [line]).map Line.start).Pairwise (· < ·) := by
  have hascends := pairwise_starts_ofText text
  rw [h.toList_starts] at hascends
  exact (List.pairwise_append.1 hascends).1

theorem PartsAt.lt_start_line (h : (ofText text).PartsAt offset early line later) :
    ∀ start ∈ early.map Line.start, start < line.start := by
  have hascends := h.pairwise_starts
  rw [List.map_append, List.pairwise_append] at hascends
  intro start hmem
  exact hascends.2.2 start hmem line.start (by simp)

theorem PartsAt.later_eq_nil (h : (ofText text).PartsAt offset early line later)
    (hsize : size text ≤ offset) : later = [] := by
  apply List.eq_nil_iff_forall_not_mem.2
  intro other hother
  have hmem : other ∈ Line.mk 0 text :: linesAfter 0 text := by
    have hlines := h.lines_eq
    rw [lines_ofText, Array.mk.injEq] at hlines
    simp [hlines, hother]
  have hlt := h.offset_lt other hother
  rcases List.mem_cons.1 hmem with rfl | hmem
  · exact absurd hlt (Nat.not_lt_zero _)
  · have hbounds := start_bounds_of_mem_linesAfter hmem
    rw [Nat.zero_add] at hbounds
    exact absurd (Nat.le_trans hbounds.2 hsize) (Nat.not_le.2 hlt)

/-! ## 3. The lookup of an offset -/

/-- Looks up the line of an offset by a search among the starts of the lines: gives its number and
its start. Gives nothing if no start is found at or before the offset, or if there is no line of the
number that was found. -/
def locate? (table : LineTable) (search : AscendingSearch) (offset : Nat) : Option (Nat × Nat) := do
  let number ← (search.find table.starts offset).last?
  let start ← table.starts[number]?
  return (number, start)

theorem PartsAt.locate?_eq (h : (ofText text).PartsAt offset early line later)
    (search : AscendingSearch) :
    (ofText text).locate? search offset = some (early.length, line.start) := by
  have hfits := search.fits _ offset ((pairwise_starts_ofText text).imp Nat.le_of_lt)
  have hstarts : (ofText text).starts.toList =
      early.map Line.start ++ line.start :: later.map Line.start := by
    rw [h.toList_starts]
    simp
  have hbehind : ∀ start ∈ later.map Line.start, offset < start := by
    intro start hmem
    obtain ⟨other, hother, rfl⟩ := List.mem_map.1 hmem
    exact h.offset_lt other hother
  have hlast := Placement.last?_eq_of_fits hfits hstarts h.lt_start_line
    (h.le_offset line (by simp)) hbehind
  rw [List.length_map] at hlast
  have hline : (ofText text).starts[early.length]? = some line.start := by
    rw [← Array.getElem?_toList, hstarts, List.getElem?_append_right (by simp)]
    simp
  simp [locate?, hlast, hline]

/-! ## 4. Lines and line feeds -/

/-- The lines up to that of the offset start at zero and one past each line feed before the offset.
-/
theorem PartsAt.toFinset_starts (h : (ofText text).PartsAt offset early line later) :
    ((early ++ [line]).map Line.start).toFinset =
      insert 0 ((feedsBefore text offset).image (· + 1)) := by
  ext start
  rw [List.mem_toFinset, h.mem_start_iff, mem_starts_ofText_iff, Finset.mem_insert,
    Finset.mem_image]
  simp only [mem_feedsBefore_iff]
  constructor
  · rintro ⟨rfl | ⟨place, hfeed, rfl⟩, hle⟩
    · exact Or.inl rfl
    · exact Or.inr ⟨place, ⟨hle, hfeed⟩, rfl⟩
  · rintro (rfl | ⟨place, ⟨hlt, hfeed⟩, rfl⟩)
    · exact ⟨Or.inl rfl, Nat.zero_le _⟩
    · exact ⟨Or.inr ⟨place, hfeed, rfl⟩, hlt⟩

theorem PartsAt.length_early (h : (ofText text).PartsAt offset early line later) :
    early.length = (feedsBefore text offset).card := by
  have hnodup : ((early ++ [line]).map Line.start).Nodup := h.pairwise_starts.imp Nat.ne_of_lt
  have hzero : 0 ∉ (feedsBefore text offset).image (· + 1) := by simp
  have hcard := congrArg Finset.card h.toFinset_starts
  rw [List.toFinset_card_of_nodup hnodup, Finset.card_insert_of_notMem hzero,
    Finset.card_image_of_injective _ (add_left_injective 1)] at hcard
  simpa using hcard

theorem PartsAt.start_line (h : (ofText text).PartsAt offset early line later) :
    line.start = (feedsBefore text offset).sup (· + 1) := by
  apply Nat.le_antisymm
  · have hmem : line.start ∈ ((early ++ [line]).map Line.start).toFinset := by simp
    rw [h.toFinset_starts, Finset.mem_insert, Finset.mem_image] at hmem
    rcases hmem with hzero | ⟨place, hplace, heq⟩
    · rw [hzero]
      exact Nat.zero_le _
    · rw [← heq]
      exact Finset.le_sup (f := (· + 1)) hplace
  · apply Finset.sup_le
    intro place hplace
    have hmem : place + 1 ∈ ((early ++ [line]).map Line.start).toFinset := by
      rw [h.toFinset_starts]
      exact Finset.mem_insert_of_mem (Finset.mem_image_of_mem _ hplace)
    rw [List.mem_toFinset, List.map_append, List.mem_append] at hmem
    rcases hmem with hbefore | hline
    · exact Nat.le_of_lt (h.lt_start_line _ hbefore)
    · simpa using Nat.le_of_eq (List.mem_singleton.1 hline)

/-- The line that the table finds is the last one that starts at or before the offset. -/
theorem exists_partsAt_lineAt (text : List Char) (offset : Nat) :
    ∃ early later, (ofText text).PartsAt offset early ((ofText text).lineAt offset) later ∧
      (ofText text).numberAt offset = early.length := by
  obtain ⟨early, line, later, h⟩ := exists_partsAt_ofText text offset
  obtain ⟨hnumber, rfl⟩ := lineAt_of_split h.lines_eq h.le_offset h.offset_lt
  exact ⟨early, later, h, hnumber⟩

theorem numberAt_ofText (text : List Char) (offset : Nat) :
    (ofText text).numberAt offset = (feedsBefore text offset).card := by
  obtain ⟨early, later, h, hnumber⟩ := exists_partsAt_lineAt text offset
  exact hnumber.trans h.length_early

theorem start_lineAt_ofText (text : List Char) (offset : Nat) :
    ((ofText text).lineAt offset).start = (feedsBefore text offset).sup (· + 1) := by
  obtain ⟨early, later, h, -⟩ := exists_partsAt_lineAt text offset
  exact h.start_line

/-- What looking up the lines of a text finds. -/
structure FindsLines (text : List Char) : Prop where
  /-- Every search leads to a line, the one that the table finds. -/
  locate?_eq : ∀ search offset, (ofText text).locate? search offset =
    some ((ofText text).numberAt offset, ((ofText text).lineAt offset).start)
  number_eq : ∀ offset, (ofText text).numberAt offset = (feedsBefore text offset).card
  /-- One past the last line feed before the offset, or zero if there is none. -/
  start_eq : ∀ offset, ((ofText text).lineAt offset).start = (feedsBefore text offset).sup (· + 1)
  start_le : ∀ offset, ((ofText text).lineAt offset).start ≤ offset
  last_of_le : ∀ offset, size text ≤ offset →
    (ofText text).numberAt offset + 1 = (ofText text).lines.size ∧
      (ofText text).lines.back? = some ((ofText text).lineAt offset)
  monotone_number : Monotone fun offset => (ofText text).numberAt offset
  monotone_start : Monotone fun offset => ((ofText text).lineAt offset).start

/-- The line of an offset is told by the line feeds before it, whatever search looks it up: their
number is that of the line, and the line starts one past the last of them. Behind the end of the
text it is the last line, and a later offset never belongs to an earlier line. -/
theorem findsLines (text : List Char) : FindsLines text := by
  constructor
  case locate?_eq =>
    intro search offset
    obtain ⟨early, later, h, hnumber⟩ := exists_partsAt_lineAt text offset
    rw [h.locate?_eq search, hnumber]
  case number_eq => exact numberAt_ofText text
  case start_eq => exact start_lineAt_ofText text
  case start_le =>
    intro offset
    obtain ⟨early, later, h, -⟩ := exists_partsAt_lineAt text offset
    exact h.le_offset _ (by simp)
  case last_of_le =>
    intro offset hsize
    obtain ⟨early, later, h, hnumber⟩ := exists_partsAt_lineAt text offset
    obtain rfl := h.later_eq_nil hsize
    rw [hnumber, h.lines_eq]
    simp
  case monotone_number =>
    intro first second hle
    simp only [numberAt_ofText]
    exact Finset.card_le_card (monotone_feedsBefore text hle)
  case monotone_start =>
    intro first second hle
    simp only [start_lineAt_ofText]
    exact Finset.sup_mono (monotone_feedsBefore text hle)

example : [0, 4, 5, 9, 12, 99].map ((ofText "rule\n  when\n".toList).locate? .halving)
    = [some (0, 0), some (0, 0), some (1, 5), some (1, 5), some (2, 12), some (2, 12)] := by
  decide +kernel

end LineTable

end DroolsInk.Text
