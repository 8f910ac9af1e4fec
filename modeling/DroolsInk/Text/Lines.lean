import DroolsInk.Text.Offset

/-!
# The lines of a text

A line starts at offset zero and after every line feed; no other character ends a line. A
`LineTable` lists the starts in order, so that the line of an offset is found by halving: it is the
last line that starts at or before the offset. An offset past the end belongs to the last line.

Each line keeps the text from its start on, so that a place in the line is found without going
through the lines before it.
-/

namespace DroolsInk.Text

/-- A line: where it starts, and the text from there to the end. -/
structure Line where
  start : Nat
  rest : List Char
  deriving DecidableEq, Repr

/-- The lines that start inside `text`, which itself starts at `offset`. -/
def linesAfter (offset : Nat) : List Char → List Line
  | [] => []
  | c :: rest =>
    let next := offset + c.utf8Size
    if c = '\n' then ⟨next, rest⟩ :: linesAfter next rest else linesAfter next rest

structure LineTable where
  lines : Array Line
  nonempty : 0 < lines.size

/-- The table of all lines; a text without a line feed has one. -/
def LineTable.ofText (text : List Char) : LineTable :=
  ⟨(Line.mk 0 text :: linesAfter 0 text).toArray, by simp⟩

/-- Halves the range of line numbers from `low` up to, not including, `high` until one is left.
Line `low` is taken to start at or before the offset and line `high` after it. -/
def LineTable.search (lines : Array Line) (offset low high : Nat) : Nat :=
  if h : high ≤ low + 1 then low
  else
    let middle := (low + high) / 2
    if (lines[middle]?).all (·.start ≤ offset) then
      LineTable.search lines offset middle high
    else
      LineTable.search lines offset low middle
termination_by high - low

theorem LineTable.search_lt (lines : Array Line) (offset low high bound : Nat)
    (hlow : low < bound) (hhigh : high ≤ bound) :
    LineTable.search lines offset low high < bound := by
  fun_induction LineTable.search lines offset low high with
  | case1 => exact hlow
  | case2 low high h middle _ ih => exact ih (by omega) hhigh
  | case3 low high h middle _ ih => exact ih hlow (by omega)

def LineTable.numberAt (table : LineTable) (offset : Nat) : Nat :=
  LineTable.search table.lines offset 0 table.lines.size

theorem LineTable.numberAt_lt (table : LineTable) (offset : Nat) :
    table.numberAt offset < table.lines.size :=
  LineTable.search_lt _ _ _ _ _ table.nonempty (Nat.le_refl _)

def LineTable.lineAt (table : LineTable) (offset : Nat) : Line :=
  have := table.numberAt_lt offset
  table.lines[table.numberAt offset]

end DroolsInk.Text
