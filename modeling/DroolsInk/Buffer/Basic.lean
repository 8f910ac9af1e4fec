import DroolsInk.Theme.Run

/-!
# Buffers

A buffer is a text that is open for editing, together with the extents of its tokens. An extent is a
token without its characters, which the text has already. The extents of a buffer that was made from
a text, and of any buffer that edits have led to, are those of all tokens of its text.

The extents at an offset are found by halving. That is right only because the extents stand in the
order of the text, so that those that end at or before an offset come before all others.
-/

namespace DroolsInk

/-- Kind and range of a token; the end is excluded. -/
structure Extent where
  kind : Kind
  start : Nat
  stop : Nat
  deriving DecidableEq, Repr

def Token.extent (token : Token) : Extent := ⟨token.kind, token.start, token.stop⟩

/-- Halves the range of positions from `low` up to, not including, `high` until none is left. The
extents before `low` are taken to have the property, and those from `high` on not to have it. -/
def Extent.search (holds : Extent → Bool) (extents : Array Extent) (low high : Nat) : Nat :=
  if h : low < high then
    let middle := (low + high) / 2
    if (extents[middle]?).any holds then Extent.search holds extents (middle + 1) high
    else Extent.search holds extents low middle
  else low
termination_by high - low

/-- A text and the extents of its tokens. -/
structure Buffer where
  text : List Char
  extents : List Extent
  deriving DecidableEq, Repr

namespace Buffer

def ofText (text : List Char) : Buffer := ⟨text, (DroolsInk.tokens text).map Token.extent⟩

def tokenOf (buffer : Buffer) (extent : Extent) : Token :=
  ⟨extent.kind, extent.start, Text.slice buffer.text extent.start extent.stop⟩

def tokens (buffer : Buffer) : List Token := buffer.extents.map buffer.tokenOf

/-- The number of extents that end at or before an offset. -/
def passed (buffer : Buffer) (offset : Nat) : Nat :=
  Extent.search (·.stop ≤ offset) buffer.extents.toArray 0 buffer.extents.length

def tokenAt? (buffer : Buffer) (offset : Nat) : Option Token :=
  buffer.extents[buffer.passed offset]?.map buffer.tokenOf

/-- The runs of the tokens that end after `start` and start before `stop`. -/
def runsIn (buffer : Buffer) (start stop : Nat) (theme : Theme) : List Run :=
  ((buffer.extents.drop (buffer.passed start)).takeWhile (·.start < stop)).filterMap
    fun extent => theme.run? extent.kind extent.start extent.stop

end Buffer

end DroolsInk
