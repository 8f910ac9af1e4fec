import DroolsInk.Buffer.Basic
import DroolsInk.Buffer.Edit

/-!
# Edits of a buffer

An edit changes few tokens, and a buffer lexes again only what can have changed.

*Where to restart.* What kind a token is and where it ends is settled by its own characters and a
few after it. A token that ends `lookahead` bytes before the edit was settled without looking into
it and is kept, and lexing restarts where the last such token ends.

*Where to stop.* What follows a boundary does not depend on what stands before it. So when a new
token ends where an old token after the edit starts, once that one is moved with its text, the old
tokens from there on are the tokens of the rest, and they are kept, moved.

The report of an edit tells the range between the two places, how many tokens were lexed in it, and
how many old tokens were kept after it.
-/

namespace DroolsInk

/-- The number of bytes after the end of a token that may have been read to settle it. The longest
look ahead is for a keyword with hyphens at the start of a word: the rest of its spelling and one
more character, which must not belong to a word. -/
def lookahead : Nat := 24

/-- What an edit has changed in a buffer. -/
structure EditReport where
  /-- Where lexing restarted. -/
  restart : Nat
  /-- Where the tokens are the old ones again, or the end of the text. -/
  resync : Nat
  /-- The number of tokens that were lexed again. -/
  relexed : Nat
  /-- The number of old tokens kept after `resync`. -/
  reused : Nat
  deriving DecidableEq, Repr

def Edit.movedExtent (edit : Edit) (extent : Extent) : Extent :=
  ⟨extent.kind, edit.moved extent.start, edit.moved extent.stop⟩

/-- Lexes until a token ends where one of the old extents, moved, starts. Gives the extents that
were lexed and the old extents from the meeting place on; these are none if the text ends first. The
old extents must be those after the edit. -/
def Edit.resync (edit : Edit) (stream : TokenStream) (old : List Extent) :
    List Extent × List Extent :=
  match _h : stream.next? with
  | none => ([], [])
  | some (token, after) =>
    let ahead := old.dropWhile (edit.moved ·.start < token.stop)
    if ahead.head?.any (edit.moved ·.start = token.stop) then
      ([token.extent], ahead)
    else
      let (lexed, kept) := edit.resync after ahead
      (token.extent :: lexed, kept)
termination_by stream.rest.length
decreasing_by exact TokenStream.length_rest_lt_of_next? _h

namespace Buffer

/-- The extents of the tokens that end so far before an edit that it cannot change them. -/
def settled (buffer : Buffer) (edit : Edit) : List Extent :=
  buffer.extents.takeWhile (·.stop + lookahead ≤ edit.start)

/-- Where lexing restarts: at the end of the last settled token, or at the start of the text. -/
def restart (buffer : Buffer) (edit : Edit) : Nat :=
  ((buffer.settled edit).getLast?.map Extent.stop).getD 0

/-- The extents of the tokens that start at or after the end of the range of an edit. Their text is
still there after the edit. -/
def beyond (buffer : Buffer) (edit : Edit) : List Extent :=
  buffer.extents.dropWhile (·.start < edit.stop)

/-- Makes an edit and lexes again what it can have changed. A refused edit leaves the buffer as it
is. -/
def apply (buffer : Buffer) (edit : Edit) : Except EditError (Buffer × EditReport) := do
  let text ← edit.splice buffer.text
  let restart := buffer.restart edit
  let (lexed, kept) := edit.resync (.ofOffset text restart) (buffer.beyond edit)
  let after := kept.map edit.movedExtent
  let resync := (after.head?.map Extent.start).getD (Text.size text)
  return (⟨text, buffer.settled edit ++ lexed ++ after⟩,
    ⟨restart, resync, lexed.length, after.length⟩)

def submit (buffer : Buffer) (edit : Edit) : Except EditError EditReport × Buffer :=
  match buffer.apply edit with
  | .ok (after, report) => (.ok report, after)
  | .error error => (.error error, buffer)

/-- The buffer after a run of edits, some of which may have been refused. -/
def run (buffer : Buffer) (edits : List Edit) : Buffer :=
  edits.foldl (fun buffer edit => (buffer.submit edit).2) buffer

end Buffer

end DroolsInk
