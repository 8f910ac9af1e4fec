import DroolsInk.Proofs.Window

/-!
# The token at an offset

A host that asks for the token at an offset, under the pointer say, gets the one token of the text
that covers the offset. Only an offset at or past the end of the text has none.

The extents of a buffer tile its text, after any edits. So the first of them that ends after the
offset starts at or before it, since all before it have ended by then, and those behind it start
after the offset. That one is where the halving leads. Its range is a range of the text as it is
now, although it may have been taken over from the text before an edit, so that both ends of it are
boundaries and the characters between them are those of the token.
-/

namespace DroolsInk

/-! ## 1. What covers an offset -/

namespace Extent

/-- The byte at the offset belongs to the extent. -/
def covers (offset : Nat) (extent : Extent) : Bool := extent.start ≤ offset ∧ offset < extent.stop

variable {start stop offset : Nat} {extents : List Extent}

/-- Where extents tile a range, the first one that ends after an offset of the range is the only one
that covers it. The induction is on the tiling; what has ended by the offset is passed. -/
theorem Tiles.filter_covers (h : Tiles start stop extents) (hstart : start ≤ offset) :
    extents.filter (covers offset) = (extents.dropWhile (·.stop ≤ offset)).head?.toList ∧
      ((extents.dropWhile (·.stop ≤ offset)).head? = none ↔ stop ≤ offset) := by
  induction extents generalizing start with
  | nil =>
    obtain rfl : start = stop := h
    exact ⟨rfl, iff_of_true rfl hstart⟩
  | cons extent rest ih =>
    obtain ⟨hfirst, -, hrest⟩ := h
    by_cases hpassed : extent.stop ≤ offset
    · have hmiss : covers offset extent = false := decide_eq_false (by omega)
      rw [List.filter_cons_of_neg (by simp [hmiss]), List.dropWhile_cons_of_pos (by simpa)]
      exact ih hrest hpassed
    · have hcovers : covers offset extent = true := decide_eq_true (by omega)
      have hlater : rest.filter (covers offset) = [] := by
        apply List.filter_eq_nil_iff.2
        intro other hmem hother
        have hbounds := hrest.bounds_of_mem hmem
        have hrange := of_decide_eq_true hother
        omega
      rw [List.filter_cons_of_pos hcovers, hlater,
        List.dropWhile_cons_of_neg (by simpa using hpassed)]
      have hend := hrest.le
      exact ⟨rfl, iff_of_false nofun (by omega)⟩

end Extent

/-! ## 2. Tokens from their extents -/

theorem Text.slice_size_append (before middle after : List Char) :
    slice (before ++ middle ++ after) (size before) (size (before ++ middle)) = middle := by
  rw [slice, cut_size_append, cut_size_append]

namespace Buffer

/-- A buffer gives the tokens of its text, each from a range of the text that lies between two
boundaries of it. At each offset it finds the token that covers the offset, if there is one, and
there is one if the offset lies before the end of the text. -/
structure Locates (buffer : Buffer) : Prop where
  tokens_eq : buffer.tokens = DroolsInk.tokens buffer.text
  sliceable : ∀ extent ∈ buffer.extents, ∃ before after,
    buffer.text = before ++ (buffer.tokenOf extent).text ++ after ∧
      Text.size before = extent.start ∧
      Text.size (before ++ (buffer.tokenOf extent).text) = extent.stop
  tokenAt?_eq_none_iff : ∀ offset, buffer.tokenAt? offset = none ↔ Text.size buffer.text ≤ offset
  toList_tokenAt? : ∀ offset, (buffer.tokenAt? offset).toList =
    (DroolsInk.tokens buffer.text).filter fun token => token.start ≤ offset ∧ offset < token.stop
  text_tokenAt? : ∀ offset token, buffer.tokenAt? offset = some token →
    token.text = Text.slice buffer.text token.start token.stop

variable {text : List Char} {token : Token}

theorem exists_parts_of_mem_tokens (hmem : token ∈ DroolsInk.tokens text) :
    ∃ before after, text = before ++ token.text ++ after ∧ Text.size before = token.start ∧
      Text.size (before ++ token.text) = token.stop :=
  (TokenStream.StandsIn.of_mem_toList ⟨[], rfl, rfl⟩ hmem).2

theorem slice_of_mem_tokens (hmem : token ∈ DroolsInk.tokens text) :
    Text.slice text token.start token.stop = token.text := by
  obtain ⟨before, after, htext, hstart, hstop⟩ := exists_parts_of_mem_tokens hmem
  rw [htext, ← hstart, ← hstop, Text.slice_size_append]

/-- The extent of a token gives the token back. -/
theorem tokenOf_extent (hmem : token ∈ DroolsInk.tokens text) :
    (ofText text).tokenOf token.extent = token := by
  show Token.mk token.kind token.start (Text.slice text token.start token.stop) = token
  rw [slice_of_mem_tokens hmem]

theorem tokens_ofText (text : List Char) : (ofText text).tokens = DroolsInk.tokens text := by
  show ((DroolsInk.tokens text).map Token.extent).map (ofText text).tokenOf = _
  rw [List.map_map]
  conv_rhs => rw [← List.map_id (DroolsInk.tokens text)]
  apply List.map_congr_left
  intro token hmem
  exact tokenOf_extent hmem

/-- The halving leads to the first extent that ends after the offset. -/
theorem tokenAt?_ofText (text : List Char) (offset : Nat) :
    (ofText text).tokenAt? offset
      = ((ofText text).extents.dropWhile (·.stop ≤ offset)).head?.map (ofText text).tokenOf := by
  have hsorted := Extent.Tiles.pairwise_stop_le (tiles_tokens text) offset
  rw [tokenAt?, passed, ← List.head?_drop, ofText, Extent.drop_search hsorted,
    filter_not_eq_dropWhile hsorted]

theorem toList_tokenAt?_ofText (text : List Char) (offset : Nat) :
    ((ofText text).tokenAt? offset).toList =
      (DroolsInk.tokens text).filter fun token => token.start ≤ offset ∧ offset < token.stop := by
  let found := (DroolsInk.tokens text).filter fun token =>
    token.start ≤ offset ∧ offset < token.stop
  have hfirst := ((tiles_tokens text).filter_covers (Nat.zero_le offset)).1
  have hcovers : ((DroolsInk.tokens text).map Token.extent).filter (Extent.covers offset)
      = found.map Token.extent := List.filter_map
  have hfound : ∀ token ∈ found, (ofText text).tokenOf token.extent = token :=
    fun token hmem => tokenOf_extent (List.mem_filter.1 hmem).1
  calc ((ofText text).tokenAt? offset).toList
      = ((ofText text).extents.dropWhile (·.stop ≤ offset)).head?.toList.map
          (ofText text).tokenOf := by rw [tokenAt?_ofText, Option.toList_map]
    _ = (found.map Token.extent).map (ofText text).tokenOf := by rw [ofText, ← hfirst, hcovers]
    _ = found.map id := by
        rw [List.map_map]
        exact List.map_congr_left hfound
    _ = found := List.map_id found

theorem locates_ofText (text : List Char) : (ofText text).Locates := by
  constructor
  case tokens_eq => exact tokens_ofText text
  case sliceable =>
    intro extent hmem
    obtain ⟨token, htoken, rfl⟩ := List.mem_map.1 hmem
    rw [tokenOf_extent htoken]
    exact exists_parts_of_mem_tokens htoken
  case tokenAt?_eq_none_iff =>
    intro offset
    rw [tokenAt?_ofText, Option.map_eq_none_iff]
    exact ((tiles_tokens text).filter_covers (Nat.zero_le offset)).2
  case toList_tokenAt? => exact toList_tokenAt?_ofText text
  case text_tokenAt? =>
    intro offset token htoken
    have hmem : token ∈ ((ofText text).tokenAt? offset).toList := by
      rw [htoken]
      exact List.mem_singleton_self token
    rw [toList_tokenAt?_ofText] at hmem
    exact (slice_of_mem_tokens (List.mem_filter.1 hmem).1).symm

/-- However a buffer has come about, it finds at each offset the one token of its text there. -/
theorem run_locates (text : List Char) (edits : List Edit) : ((ofText text).run edits).Locates := by
  rw [run_ofText]
  exact locates_ofText _

example : (ofText "x='é'".toList).tokenAt? 4 = some ⟨.string, 2, "'é'".toList⟩ := by
  decide +kernel

end Buffer

end DroolsInk
