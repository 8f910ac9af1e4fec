import Mathlib.Algebra.Group.Int.Defs
import Mathlib.Algebra.Group.Nat.Defs
import DroolsInk.Proofs.Resync

/-!
# Offsets in machine words

An edit moves the offsets behind its range. In machine words of 64 bits this goes through signed
words: the offset is read as a signed word, the change of the size of the text is added, and the sum
is read as unsigned again. Here every such reading and every sum is checked, and gives nothing if
the word cannot hold the number.

A text has fewer than 2 ^ 63 bytes, so that its offsets are the same in both sorts of words. An
offset that stands at or behind the end of the range is moved to a place behind the new text of the
range and not past the end of the text. An offset before that could come out negative. None is ever
moved: lexing looks for a meeting place among the extents that start behind the range, and those
that it keeps are some of them. That is why the outcome is the same whatever becomes of other
offsets.
-/

namespace DroolsInk

/-! ## 1. Words -/

namespace Word

/-- A number as an unsigned word holds it. -/
def unsigned? (value : Int) : Option Nat :=
  if 0 ≤ value ∧ value < 2 ^ 64 then some value.toNat else none

/-- A number as a signed word holds it. -/
def signed? (value : Int) : Option Int :=
  if -2 ^ 63 ≤ value ∧ value < 2 ^ 63 then some value else none

theorem unsigned?_of_lt {value : Nat} (h : value < 2 ^ 64) : unsigned? value = some value :=
  if_pos ⟨Int.natCast_nonneg value, by omega⟩

theorem signed?_of_le {value : Int} (hlow : -2 ^ 63 ≤ value) (hhigh : value < 2 ^ 63) :
    signed? value = some value :=
  if_pos ⟨hlow, hhigh⟩

end Word

namespace Edit

variable {edit : Edit} {old : List Extent} {move : Nat → Option Nat}

/-- `delta` with a check of every number. -/
def deltaInWords? (edit : Edit) : Option Int := do
  let inserted ← Word.signed? (Text.size edit.text)
  let range ← Word.unsigned? ((edit.stop : Int) - edit.start)
  let removed ← Word.signed? range
  Word.signed? (inserted - removed)

/-- The place of an offset after a change of the size by `delta`, with a check of every number. -/
def movedInWords? (delta : Int) (offset : Nat) : Option Nat := do
  let signed ← Word.signed? offset
  let sum ← Word.signed? (signed + delta)
  Word.unsigned? sum

theorem deltaInWords?_eq (hrange : edit.start ≤ edit.stop) (hstop : edit.stop < 2 ^ 63)
    (htext : Text.size edit.text < 2 ^ 63) : edit.deltaInWords? = some edit.delta := by
  have hwidth : (edit.stop : Int) - edit.start = (edit.stop - edit.start : Nat) :=
    (Int.ofNat_sub hrange).symm
  have hinserted : Word.signed? (Text.size edit.text) = some (Text.size edit.text : Int) :=
    Word.signed?_of_le (by omega) (by omega)
  have hunsigned : Word.unsigned? ((edit.stop : Int) - edit.start)
      = some (edit.stop - edit.start) := by
    rw [hwidth]
    exact Word.unsigned?_of_lt (by omega)
  have hremoved : Word.signed? (edit.stop - edit.start : Nat)
      = some ((edit.stop - edit.start : Nat) : Int) :=
    Word.signed?_of_le (by omega) (by omega)
  have hdelta : Word.signed? (Text.size edit.text - (edit.stop - edit.start : Nat))
      = some edit.delta := by
    rw [delta, hwidth]
    exact Word.signed?_of_le (by omega) (by omega)
  unfold deltaInWords?
  rw [hinserted, Option.bind_eq_bind, Option.bind_some, hunsigned, Option.bind_eq_bind,
    Option.bind_some, hremoved, Option.bind_some, hdelta]

/-- Offsets behind the range move to places behind its new text. -/
theorem movedInWords?_eq {offset : Nat} (hrange : edit.start ≤ edit.stop)
    (hbehind : edit.stop ≤ offset) (hoffset : offset < 2 ^ 63)
    (hmoved : edit.moved offset < 2 ^ 63) :
    movedInWords? edit.delta offset = some (edit.moved offset) := by
  have hsigned : Word.signed? offset = some (offset : Int) :=
    Word.signed?_of_le (by omega) (by omega)
  have hsum : Word.signed? (offset + edit.delta) = some (edit.moved offset : Int) := by
    rw [← edit.moved_eq_add_delta hrange hbehind]
    exact Word.signed?_of_le (by omega) (by omega)
  unfold movedInWords?
  rw [hsigned, Option.bind_eq_bind, Option.bind_some, hsum,
    Option.bind_some, Word.unsigned?_of_lt (by omega)]

/-! ## 2. Edits that move offsets by a function -/

/-- The extents from the first one on that does not start before the bound, once moved. -/
def aheadBy? (move : Nat → Option Nat) (bound : Nat) : List Extent → Option (List Extent)
  | [] => some []
  | extent :: rest => do
    if (← move extent.start) < bound then aheadBy? move bound rest else return extent :: rest

/-- `resync` with another function to move offsets, which may fail. -/
def resyncBy? (move : Nat → Option Nat) (stream : TokenStream) (old : List Extent) :
    Option (List Extent × List Extent) :=
  match _h : stream.next? with
  | none => some ([], [])
  | some (token, after) => do
    let ahead ← aheadBy? move token.stop old
    let place? ← ahead.head?.mapM (move ·.start)
    if place? = some token.stop then some ([token.extent], ahead)
    else (resyncBy? move after ahead).map fun (lexed, kept) => (token.extent :: lexed, kept)
termination_by stream.rest.length
decreasing_by exact TokenStream.length_rest_lt_of_next? _h

/-- `movedExtent` with another function to move offsets, which may fail. -/
def movedExtentBy? (move : Nat → Option Nat) (extent : Extent) : Option Extent := do
  return ⟨extent.kind, ← move extent.start, ← move extent.stop⟩

/-- The function moves both ends of each of the extents as the edit does. -/
def AgreesOn (edit : Edit) (move : Nat → Option Nat) (old : List Extent) : Prop :=
  ∀ extent ∈ old, move extent.start = some (edit.moved extent.start) ∧
    move extent.stop = some (edit.moved extent.stop)

theorem aheadBy?_eq (h : edit.AgreesOn move old) (bound : Nat) :
    aheadBy? move bound old = some (old.dropWhile (edit.moved ·.start < bound)) := by
  induction old with
  | nil => rfl
  | cons extent rest ih =>
    obtain ⟨⟨hstart, -⟩, hrest⟩ := List.forall_mem_cons.1 h
    rw [aheadBy?, hstart, List.dropWhile_cons]
    simp only [bind, Option.bind, decide_eq_true_eq]
    split
    · exact ih hrest
    · rfl

theorem AgreesOn.of_subset {part : List Extent} (h : edit.AgreesOn move old) (hpart : part ⊆ old) :
    edit.AgreesOn move part :=
  fun extent hmem => h extent (hpart hmem)

theorem AgreesOn.mapM_head? (h : edit.AgreesOn move old) :
    old.head?.mapM (move ·.start) = some (old.head?.map (edit.moved ·.start)) := by
  cases old with
  | nil => rfl
  | cons extent rest =>
    have hstart := (h extent List.mem_cons_self).1
    simp only [List.head?_cons, Option.mapM_some, hstart, Option.map_some]
    rfl

theorem resyncBy?_of_next?_eq_none {stream : TokenStream} (h : stream.next? = none) :
    resyncBy? move stream old = some ([], []) := by
  rw [resyncBy?]
  split
  · rfl
  · next token after hnext =>
    rw [h] at hnext
    cases hnext

theorem AgreesOn.resyncBy?_of_next?_eq_some {stream after : TokenStream} {token : Token}
    (h : edit.AgreesOn move old) (hnext : stream.next? = some (token, after)) :
    let ahead := old.dropWhile (edit.moved ·.start < token.stop)
    resyncBy? move stream old =
      if ahead.head?.any (edit.moved ·.start = token.stop) then some ([token.extent], ahead)
      else (resyncBy? move after ahead).map fun (lexed, kept) => (token.extent :: lexed, kept) := by
  intro ahead
  have hahead : edit.AgreesOn move ahead := h.of_subset (List.dropWhile_sublist _).subset
  have hmeets : ahead.head?.map (edit.moved ·.start) = some token.stop ↔
      ahead.head?.any (edit.moved ·.start = token.stop) = true := by
    cases ahead with
    | nil => simp
    | cons extent rest => simp
  rw [resyncBy?]
  split
  · next hnone =>
    rw [hnext] at hnone
    cases hnone
  · next hsome =>
    rw [hnext] at hsome
    cases hsome
    rw [aheadBy?_eq h, Option.bind_eq_bind, Option.bind_some, hahead.mapM_head?,
      Option.bind_eq_bind, Option.bind_some]
    simp only [hmeets]
    rfl

/-- Lexing asks for the places of the extents after the edit and of no others. -/
theorem resyncBy?_eq (stream : TokenStream) (h : edit.AgreesOn move old) :
    resyncBy? move stream old = some (edit.resync stream old) := by
  fun_induction Edit.resync edit stream old with
  | case1 stream old hnext => exact resyncBy?_of_next?_eq_none hnext
  | case2 stream old token after hnext ahead hmeets =>
    rw [h.resyncBy?_of_next?_eq_some hnext, if_pos hmeets]
  | case3 stream old token after hnext ahead hmeets lexed kept hresync ih =>
    have hahead : edit.AgreesOn move ahead := h.of_subset (List.dropWhile_sublist _).subset
    rw [h.resyncBy?_of_next?_eq_some hnext, if_neg hmeets, ih hahead, hresync]
    rfl

theorem resync_snd_suffix (edit : Edit) (stream : TokenStream) (old : List Extent) :
    (edit.resync stream old).2 <:+ old := by
  fun_induction Edit.resync edit stream old with
  | case1 => exact List.nil_suffix
  | case2 => exact List.dropWhile_suffix _
  | case3 stream old token after hnext ahead hmeets lexed kept hresync ih =>
    rw [hresync] at ih
    exact ih.trans (List.dropWhile_suffix _)

theorem mapM_movedExtentBy? (h : edit.AgreesOn move old) :
    old.mapM (movedExtentBy? move) = some (old.map edit.movedExtent) := by
  induction old with
  | nil => rfl
  | cons extent rest ih =>
    obtain ⟨⟨hstart, hstop⟩, hrest⟩ := List.forall_mem_cons.1 h
    rw [List.mapM_cons, movedExtentBy?, hstart, hstop, ih hrest]
    rfl

end Edit

namespace Buffer

variable {buffer : Buffer} {edit : Edit} {text : List Char} {move : Nat → Option Nat}

/-- `apply` with another function to move offsets, which may fail. -/
def applyBy? (move : Nat → Option Nat) (buffer : Buffer) (edit : Edit) :
    Option (Except EditError (Buffer × EditReport)) :=
  match edit.splice buffer.text with
  | .error error => some (.error error)
  | .ok text => do
    let restart := buffer.restart edit
    let (lexed, kept) ← Edit.resyncBy? move (.ofOffset text restart) (buffer.beyond edit)
    let after ← kept.mapM (Edit.movedExtentBy? move)
    let resync := (after.head?.map Extent.start).getD (Text.size text)
    return .ok (⟨text, buffer.settled edit ++ lexed ++ after⟩,
      ⟨restart, resync, lexed.length, after.length⟩)

/-- An edit moves the ends of extents after its range and no other offset. -/
theorem applyBy?_eq (h : edit.AgreesOn move (buffer.beyond edit)) :
    buffer.applyBy? move edit = some (buffer.apply edit) := by
  unfold applyBy? apply
  cases edit.splice buffer.text with
  | error error => rfl
  | ok text =>
    have hkept := h.of_subset
      (edit.resync_snd_suffix (.ofOffset text (buffer.restart edit)) (buffer.beyond edit)).subset
    simp only [Edit.resyncBy?_eq _ h, Option.bind_eq_bind, Option.bind_some,
      Edit.mapM_movedExtentBy? hkept]
    rfl

/-! ## 3. Edits in words -/

/-- What an edit does with offsets can be done in words of 64 bits, in which it comes to the same.
-/
structure RunsInWords (buffer : Buffer) (edit : Edit) (next : Buffer) : Prop where
  lookahead_lt : ∀ extent ∈ buffer.extents, extent.stop + lookahead < 2 ^ 64
  delta_eq : edit.deltaInWords? = some edit.delta
  delta_bounds : -2 ^ 63 ≤ edit.delta ∧ edit.delta < 2 ^ 63
  /-- What the ends of other extents would be moved to does not matter. -/
  apply_eq : ∀ move : Nat → Option Nat,
    (∀ extent ∈ buffer.extents, edit.stop ≤ extent.start →
      move extent.start = Edit.movedInWords? edit.delta extent.start ∧
      move extent.stop = Edit.movedInWords? edit.delta extent.stop) →
    buffer.applyBy? move edit = some (buffer.apply edit)
  moved_eq : ∀ extent ∈ buffer.extents, edit.stop ≤ extent.start →
    Edit.movedInWords? edit.delta extent.start = some (edit.moved extent.start) ∧
    Edit.movedInWords? edit.delta extent.stop = some (edit.moved extent.stop)
  place_eq : ∀ extent ∈ buffer.extents, edit.stop ≤ extent.start →
    (extent.start : Int) + edit.delta = edit.moved extent.start ∧
    (extent.stop : Int) + edit.delta = edit.moved extent.stop ∧
    edit.moved extent.start = extent.start - edit.stop + edit.start + Text.size edit.text
  place_bounds : ∀ extent ∈ buffer.extents, edit.stop ≤ extent.start →
    edit.start + Text.size edit.text ≤ edit.moved extent.start ∧
    edit.moved extent.start < edit.moved extent.stop ∧
    edit.moved extent.stop ≤ Text.size next.text

theorem submit_ofText_runsInWords (hfits : edit.Fits text) (hold : Text.size text < 2 ^ 63)
    (hinserted : Text.size edit.text < 2 ^ 63)
    (hnew : Text.size ((ofText text).submit edit).2.text < 2 ^ 63) :
    (ofText text).RunsInWords edit ((ofText text).submit edit).2 := by
  obtain ⟨before, middle, after, htext, hstart, hstop⟩ := Edit.exists_parts_of_fits hfits
  obtain ⟨report, hsubmit⟩ := submit_ofText_of_parts htext hstart hstop
  obtain ⟨hrange, hsize, -, -⟩ := hfits
  have hnext : ((ofText text).submit edit).2.text = before ++ edit.text ++ after := by
    rw [hsubmit]
    rfl
  have hextents : ∀ extent ∈ (ofText text).extents,
      extent.start < extent.stop ∧ extent.stop ≤ Text.size text :=
    fun extent hmem => ((tiles_tokens text).bounds_of_mem hmem).2
  -- the end of the old text moves to the end of the new one, and what is before it stays before it
  have hmoved : ∀ offset ≤ Text.size text,
      edit.moved offset ≤ Text.size ((ofText text).submit edit).2.text := by
    intro offset hoffset
    rw [hnext, ← Edit.moved_size htext hstart hstop]
    exact edit.moved_le_moved hoffset
  have hdelta : edit.delta = Text.size edit.text - ((edit.stop : Int) - edit.start) := rfl
  have hwords : ∀ extent ∈ (ofText text).extents, edit.stop ≤ extent.start →
      Edit.movedInWords? edit.delta extent.start = some (edit.moved extent.start) ∧
      Edit.movedInWords? edit.delta extent.stop = some (edit.moved extent.stop) := by
    intro extent hmem hbehind
    obtain ⟨hlt, hle⟩ := hextents extent hmem
    have hstartMoved := hmoved extent.start (by omega)
    have hstopMoved := hmoved extent.stop hle
    constructor
    · exact Edit.movedInWords?_eq hrange hbehind (by omega) (by omega)
    · exact Edit.movedInWords?_eq hrange (by omega) (by omega) (by omega)
  constructor
  case lookahead_lt =>
    intro extent hmem
    have hle := (hextents extent hmem).2
    rw [lookahead]
    omega
  case delta_eq => exact Edit.deltaInWords?_eq hrange (by omega) hinserted
  case delta_bounds => omega
  case apply_eq =>
    intro move hmove
    apply applyBy?_eq
    intro extent hmem
    obtain ⟨hold, hbehind⟩ := mem_beyond_iff.1 hmem
    rw [(hmove extent hold hbehind).1, (hmove extent hold hbehind).2]
    exact hwords extent hold hbehind
  case moved_eq => exact hwords
  case place_eq =>
    intro extent hmem hbehind
    have hlt := (hextents extent hmem).1
    rw [edit.moved_eq_add_delta hrange hbehind, edit.moved_eq_add_delta hrange (by omega)]
    exact ⟨rfl, rfl, (Nat.add_assoc _ _ _).symm⟩
  case place_bounds =>
    intro extent hmem hbehind
    obtain ⟨hlt, hle⟩ := hextents extent hmem
    refine ⟨Nat.le_add_left _ _, ?_, hmoved extent.stop hle⟩
    unfold Edit.moved
    omega

/-- Whatever edits a buffer has been through, the next one that fits can be made in words of 64 bits
if the texts have fewer than 2 ^ 63 bytes. -/
theorem submit_run_runsInWords (text : List Char) (edits : List Edit) (edit : Edit)
    (hfits : edit.Fits ((ofText text).run edits).text)
    (hold : Text.size ((ofText text).run edits).text < 2 ^ 63)
    (hinserted : Text.size edit.text < 2 ^ 63)
    (hnew : Text.size (((ofText text).run edits).submit edit).2.text < 2 ^ 63) :
    ((ofText text).run edits).RunsInWords edit (((ofText text).run edits).submit edit).2 := by
  have hbuffer : (ofText text).run edits = ofText ((ofText text).run edits).text :=
    run_ofText text edits
  generalize (ofText text).run edits = buffer at *
  rw [hbuffer] at hnew ⊢
  exact submit_ofText_runsInWords hfits hold hinserted hnew

theorem submit_run_runsInWords_of_deletion :
    let buffer := (ofText "rule \"a\" no-loo true".toList).run [.insert 15 "p".toList]
    let edit : Edit := .delete 0 5
    let next := (buffer.submit edit).2
    edit.Fits buffer.text ∧ Text.size buffer.text < 2 ^ 63 ∧ Text.size edit.text < 2 ^ 63 ∧
      Text.size next.text < 2 ^ 63 ∧ buffer.RunsInWords edit next := by
  have hfits : (Edit.delete 0 5).Fits
      ((ofText "rule \"a\" no-loo true".toList).run [.insert 15 "p".toList]).text := by
    decide +kernel
  have hold : Text.size ((ofText "rule \"a\" no-loo true".toList).run
      [.insert 15 "p".toList]).text < 2 ^ 63 := by
    decide +kernel
  have hinserted : Text.size (Edit.delete 0 5).text < 2 ^ 63 := by decide +kernel
  have hnew : Text.size (((ofText "rule \"a\" no-loo true".toList).run
      [.insert 15 "p".toList]).submit (.delete 0 5)).2.text < 2 ^ 63 := by
    decide +kernel
  exact ⟨hfits, hold, hinserted, hnew, submit_run_runsInWords _ _ _ hfits hold hinserted hnew⟩

end Buffer

end DroolsInk
