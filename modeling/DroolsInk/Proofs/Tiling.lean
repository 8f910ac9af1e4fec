import DroolsInk.Buffer.Basic

/-!
# The tokens of a text tile it

A run of extents *tiles* a range if each extent starts where the one before it ends, none is empty,
and the first and the last lie at the ends of the range. The tokens that a stream yields tile what
is left of the text, wherever the stream starts.

A stream is also a machine that is asked for one token after another. `drop` is the machine after a
number of requests; requests past the last token leave it at the end of the text. What it yields
after `count` requests is what it would have yielded in all, less the first `count` tokens.
-/

namespace DroolsInk

/-! ## 1. Extents that tile a range -/

theorem filter_append_eq_left {α : Type} {p : α → Bool} {before after : List α}
    (hbefore : ∀ a ∈ before, p a = true) (hafter : ∀ a ∈ after, p a = false) :
    (before ++ after).filter p = before := by
  have hnone : after.filter p = [] := by
    apply List.filter_eq_nil_iff.2
    intro a hmem
    exact Bool.eq_false_iff.1 (hafter a hmem)
  rw [List.filter_append, List.filter_eq_self.2 hbefore, hnone, List.append_nil]

theorem filter_append_eq_right {α : Type} {p : α → Bool} {before after : List α}
    (hbefore : ∀ a ∈ before, p a = false) (hafter : ∀ a ∈ after, p a = true) :
    (before ++ after).filter p = after := by
  have hnone : before.filter p = [] := by
    apply List.filter_eq_nil_iff.2
    intro a hmem
    exact Bool.eq_false_iff.1 (hbefore a hmem)
  rw [List.filter_append, List.filter_eq_self.2 hafter, hnone, List.nil_append]

/-- Where the items that have a property come before those that have it not, `dropWhile` leaves none
of the former. -/
theorem eq_false_of_mem_dropWhile {α : Type} {p : α → Bool} {items : List α}
    (h : items.Pairwise fun first second => p second = true → p first = true) {item : α}
    (hmem : item ∈ items.dropWhile p) : p item = false := by
  induction items with
  | nil => cases hmem
  | cons first rest ih =>
    obtain ⟨hfirst, hrest⟩ := List.pairwise_cons.1 h
    cases hp : p first with
    | true =>
      rw [List.dropWhile_cons_of_pos hp] at hmem
      exact ih hrest hmem
    | false =>
      rw [List.dropWhile_cons_of_neg (by simp [hp])] at hmem
      rcases List.mem_cons.1 hmem with rfl | hlater
      · exact hp
      · cases hitem : p item with
        | false => rfl
        | true => rw [← hp, hfirst item hlater hitem]

/-- Where the items that have a property come first and the first one has it, there is a last one
that has it. -/
theorem exists_last_of_pairwise {α : Type} {p : α → Bool} {first : α} {rest : List α}
    (h : (first :: rest).Pairwise fun one other => p other = true → p one = true)
    (hfirst : p first = true) :
    ∃ early item later, first :: rest = early ++ item :: later ∧
      (∀ other ∈ early ++ [item], p other = true) ∧ ∀ other ∈ later, p other = false := by
  rcases List.eq_nil_or_concat ((first :: rest).takeWhile p) with hnil | ⟨early, item, hconcat⟩
  · rw [List.takeWhile_cons_of_pos hfirst] at hnil
    exact absurd hnil (List.cons_ne_nil _ _)
  · rw [List.concat_eq_append] at hconcat
    refine ⟨early, item, (first :: rest).dropWhile p, ?_, ?_, ?_⟩
    · rw [List.append_cons, ← hconcat, List.takeWhile_append_dropWhile]
    · rw [← hconcat]
      exact List.all_eq_true.1 List.all_takeWhile
    · intro other hmem
      exact eq_false_of_mem_dropWhile h hmem

theorem filter_eq_takeWhile {α : Type} {p : α → Bool} {items : List α}
    (h : items.Pairwise fun first second => p second = true → p first = true) :
    items.filter p = items.takeWhile p := by
  have hsplit : items.takeWhile p ++ items.dropWhile p = items := List.takeWhile_append_dropWhile
  rw [← hsplit, filter_append_eq_left (List.all_eq_true.1 List.all_takeWhile)
    fun _ => eq_false_of_mem_dropWhile h, hsplit]

theorem filter_not_eq_dropWhile {α : Type} {p : α → Bool} {items : List α}
    (h : items.Pairwise fun first second => p second = true → p first = true) :
    items.filter (fun item => !p item) = items.dropWhile p := by
  have hsplit : items.takeWhile p ++ items.dropWhile p = items := List.takeWhile_append_dropWhile
  rw [← hsplit, filter_append_eq_right, hsplit]
  · intro item hmem
    rw [List.all_eq_true.1 List.all_takeWhile item hmem]
    rfl
  · intro item hmem
    rw [eq_false_of_mem_dropWhile h hmem]
    rfl

namespace Extent

/-- The extents lead from `start` to `stop` without a gap, and none of them is empty. -/
def Tiles : Nat → Nat → List Extent → Prop
  | start, stop, [] => start = stop
  | start, stop, extent :: rest =>
    extent.start = start ∧ start < extent.stop ∧ Tiles extent.stop stop rest

variable {start middle stop : Nat} {extents before after : List Extent}

theorem Tiles.le (h : Tiles start stop extents) : start ≤ stop := by
  induction extents generalizing start with
  | nil => exact Nat.le_of_eq h
  | cons extent rest ih =>
    obtain ⟨-, hlt, hrest⟩ := h
    exact Nat.le_trans (Nat.le_of_lt hlt) (ih hrest)

theorem tiles_append_iff :
    Tiles start stop (before ++ after) ↔
      ∃ middle, Tiles start middle before ∧ Tiles middle stop after := by
  induction before generalizing start with
  | nil =>
    constructor
    · intro h
      exact ⟨start, rfl, h⟩
    · rintro ⟨middle, rfl, h⟩
      exact h
  | cons extent rest ih =>
    constructor
    · rintro ⟨hstart, hlt, hrest⟩
      obtain ⟨middle, hbefore, hafter⟩ := ih.1 hrest
      exact ⟨middle, ⟨hstart, hlt, hbefore⟩, hafter⟩
    · rintro ⟨middle, ⟨hstart, hlt, hbefore⟩, hafter⟩
      exact ⟨hstart, hlt, ih.2 ⟨middle, hbefore, hafter⟩⟩

theorem Tiles.bounds_of_mem (h : Tiles start stop extents) {extent : Extent}
    (hmem : extent ∈ extents) :
    start ≤ extent.start ∧ extent.start < extent.stop ∧ extent.stop ≤ stop := by
  obtain ⟨before, after, rfl⟩ := List.append_of_mem hmem
  obtain ⟨middle, hbefore, hstart, hlt, hafter⟩ := tiles_append_iff.1 h
  have hfirst := hbefore.le
  have hlast := hafter.le
  omega

theorem Tiles.stop_getLast? (h : Tiles start stop extents) :
    (extents.getLast?.map Extent.stop).getD start = stop := by
  rcases List.eq_nil_or_concat extents with rfl | ⟨before, last, rfl⟩
  · exact h
  · rw [List.concat_eq_append] at h ⊢
    obtain ⟨middle, -, -, -, hlast⟩ := tiles_append_iff.1 h
    rw [List.getLast?_concat]
    exact hlast

theorem Tiles.pairwise (h : Tiles start stop extents) :
    extents.Pairwise fun first second =>
      first.stop ≤ second.start ∧ first.start < second.start ∧ first.stop < second.stop := by
  induction extents generalizing start with
  | nil => exact List.Pairwise.nil
  | cons extent rest ih =>
    obtain ⟨hstart, hlt, hrest⟩ := h
    apply List.Pairwise.cons
    · intro other hmem
      have hbounds := hrest.bounds_of_mem hmem
      omega
    · exact ih hrest

theorem Tiles.start_head? (h : Tiles start stop extents) :
    (extents.head?.map Extent.start).getD stop = start := by
  cases extents with
  | nil => exact Eq.symm h
  | cons extent rest => exact h.1

theorem Tiles.eq_nil_iff (h : Tiles start stop extents) : extents = [] ↔ start = stop := by
  constructor
  · rintro rfl
    exact h
  · rintro rfl
    cases extents with
    | nil => rfl
    | cons extent rest =>
      obtain ⟨-, hlt, hrest⟩ := h
      exact absurd hrest.le (Nat.not_le.2 hlt)

theorem Tiles.pairwise_start_lt (h : Tiles start stop extents) (bound : Nat) :
    extents.Pairwise fun first second =>
      decide (second.start < bound) = true → decide (first.start < bound) = true := by
  apply h.pairwise.imp
  intro first second horder hsecond
  have hlt := of_decide_eq_true hsecond
  exact decide_eq_true (by omega)

theorem Tiles.pairwise_stop_le (h : Tiles start stop extents) (bound : Nat) :
    extents.Pairwise fun first second =>
      decide (second.stop ≤ bound) = true → decide (first.stop ≤ bound) = true := by
  apply h.pairwise.imp
  intro first second horder hsecond
  have hle := of_decide_eq_true hsecond
  exact decide_eq_true (by omega)

theorem Tiles.le_start_of_mem_dropWhile (h : Tiles start stop extents) {bound : Nat}
    {extent : Extent} (hmem : extent ∈ extents.dropWhile (·.start < bound)) :
    bound ≤ extent.start :=
  Nat.not_lt.1 (of_decide_eq_false (eq_false_of_mem_dropWhile (h.pairwise_start_lt bound) hmem))

theorem Tiles.start_unique {other : Nat} (h : Tiles start stop extents)
    (hother : Tiles other stop extents) : start = other :=
  h.start_head?.symm.trans hother.start_head?

theorem Tiles.stop_unique {other : Nat} (h : Tiles start stop extents)
    (hother : Tiles start other extents) : stop = other :=
  h.stop_getLast?.symm.trans hother.stop_getLast?

theorem Tiles.filter_stop_le (hbefore : Tiles start middle before)
    (hafter : Tiles middle stop after) :
    (before ++ after).filter (·.stop ≤ middle) = before := by
  apply filter_append_eq_left
  · intro extent hmem
    exact decide_eq_true (hbefore.bounds_of_mem hmem).2.2
  · intro extent hmem
    have hbounds := hafter.bounds_of_mem hmem
    exact decide_eq_false (by omega)

theorem Tiles.filter_le_start (hbefore : Tiles start middle before)
    (hafter : Tiles middle stop after) :
    (before ++ after).filter (middle ≤ ·.start) = after := by
  apply filter_append_eq_right
  · intro extent hmem
    have hbounds := hbefore.bounds_of_mem hmem
    exact decide_eq_false (by omega)
  · intro extent hmem
    exact decide_eq_true (hafter.bounds_of_mem hmem).1

theorem Tiles.filter_between {first second : Nat} {between : List Extent}
    (hbefore : Tiles start first before) (hbetween : Tiles first second between)
    (hafter : Tiles second stop after) :
    (before ++ between ++ after).filter
      (fun extent => first ≤ extent.start ∧ extent.stop ≤ second) = between := by
  have hjoin : Tiles start second (before ++ between) :=
    tiles_append_iff.2 ⟨first, hbefore, hbetween⟩
  calc (before ++ between ++ after).filter
        (fun extent => first ≤ extent.start ∧ extent.stop ≤ second)
      = ((before ++ between ++ after).filter (·.stop ≤ second)).filter (first ≤ ·.start) := by
        rw [List.filter_filter]
        simp only [Bool.decide_and]
    _ = (before ++ between).filter (first ≤ ·.start) := by rw [hjoin.filter_stop_le hafter]
    _ = between := hbefore.filter_le_start hbetween

theorem Tiles.eq_or_exists_start (h : Tiles start stop extents) :
    start = stop ∨ ∃ extent ∈ extents, extent.start = start := by
  cases extents with
  | nil => exact Or.inl h
  | cons extent rest => exact Or.inr ⟨extent, List.mem_cons_self, h.1⟩

theorem Tiles.eq_or_exists_stop (h : Tiles start stop extents) :
    start = stop ∨ ∃ extent ∈ extents, extent.stop = stop := by
  rcases List.eq_nil_or_concat extents with rfl | ⟨before, last, rfl⟩
  · exact Or.inl h
  · rw [List.concat_eq_append] at h ⊢
    obtain ⟨middle, -, -, -, hlast⟩ := tiles_append_iff.1 h
    exact Or.inr ⟨last, List.mem_append_right _ List.mem_cons_self, hlast⟩

end Extent

/-! ## 2. Places in a text -/

namespace Text

/-- A text that is parted twice: the parts of the later cut go on from those of the earlier one. -/
theorem exists_between_of_size_le {first second third fourth : List Char}
    (h : first ++ second = third ++ fourth) (hsize : size first ≤ size third) :
    ∃ between, third = first ++ between ∧ second = between ++ fourth := by
  rcases List.append_eq_append_iff.1 h with ⟨between, hthird, hsecond⟩ | ⟨between, hfirst, hfourth⟩
  · exact ⟨between, hthird, hsecond⟩
  · have hnil : between = [] := by
      rw [hfirst, size_append] at hsize
      exact size_eq_zero_iff.1 (by omega)
    subst hnil
    exact ⟨[], by simpa using hfirst.symm, by simpa using hfourth.symm⟩

end Text

namespace TokenStream

/-- The stream stands at a boundary of the text, and what is left of it is the text from there on.
-/
def StandsIn (stream : TokenStream) (text : List Char) : Prop :=
  ∃ before, text = before ++ stream.rest ∧ Text.size before = stream.offset

variable {stream other after : TokenStream} {token : Token} {text : List Char}

theorem standsIn_ofOffset (text : List Char) (offset : Nat) :
    (ofOffset text offset).StandsIn text :=
  ⟨(Text.cut text offset).1, (Text.cut_append text offset).symm, rfl⟩

theorem offset_ofOffset (text : List Char) (offset : Nat) :
    (ofOffset text offset).offset = Text.floorBoundary text offset := rfl

theorem ofOffset_size_append (before rest : List Char) :
    ofOffset (before ++ rest) (Text.size before) = ⟨Text.size before, rest⟩ := by
  simp [ofOffset]

/-- A text has one stream at each of its boundaries. -/
theorem StandsIn.eq_ofOffset (h : stream.StandsIn text) :
    stream = ofOffset text stream.offset := by
  obtain ⟨before, htext, hsize⟩ := h
  obtain ⟨offset, rest⟩ := stream
  simp only at htext hsize
  rw [htext, ← hsize, ofOffset_size_append]

theorem StandsIn.offset_add_size (h : stream.StandsIn text) :
    stream.offset + Text.size stream.rest = Text.size text := by
  obtain ⟨before, htext, hsize⟩ := h
  rw [htext, Text.size_append, hsize]

theorem StandsIn.parts (h : stream.StandsIn text) (hnext : stream.next? = some (token, after)) :
    ∃ before rest, text = before ++ token.text ++ rest ∧ Text.size before = token.start ∧
      Text.size (before ++ token.text) = token.stop := by
  obtain ⟨before, htext, hsize⟩ := h
  obtain ⟨hstart, -⟩ := offset_of_next? hnext
  refine ⟨before, after.rest, ?_, by rw [hstart, hsize], ?_⟩
  · rw [htext, rest_eq_of_next? hnext, List.append_assoc]
  · rw [Text.size_append, hsize, ← hstart]
    rfl

theorem StandsIn.next? (h : stream.StandsIn text) (hnext : stream.next? = some (token, after)) :
    after.StandsIn text := by
  obtain ⟨before, rest, htext, hstart, hstop⟩ := h.parts hnext
  obtain ⟨start, hstream, hsize⟩ := h
  refine ⟨start ++ token.text, ?_, ?_⟩
  · rw [hstream, rest_eq_of_next? hnext, List.append_assoc]
  · rw [(offset_of_next? hnext).2, Text.size_append, hsize, ← (offset_of_next? hnext).1]
    rfl

/-! ## 3. A stream that is asked again and again -/

def skip (stream : TokenStream) : TokenStream :=
  match stream.next? with
  | none => stream
  | some (_, after) => after

def drop : Nat → TokenStream → TokenStream
  | 0, stream => stream
  | count + 1, stream => drop count stream.skip

theorem skip_of_next?_eq_none (h : stream.next? = none) : stream.skip = stream := by
  simp [skip, h]

theorem skip_of_next?_eq_some (h : stream.next? = some (token, after)) : stream.skip = after := by
  simp [skip, h]

theorem drop_succ (count : Nat) (stream : TokenStream) :
    drop (count + 1) stream = (drop count stream).skip := by
  induction count generalizing stream with
  | zero => rfl
  | succ count ih => exact ih stream.skip

theorem StandsIn.skip (h : stream.StandsIn text) : stream.skip.StandsIn text := by
  cases hnext : stream.next? with
  | none => rwa [skip_of_next?_eq_none hnext]
  | some pair => exact skip_of_next?_eq_some hnext ▸ h.next? hnext

theorem StandsIn.drop (h : stream.StandsIn text) (count : Nat) :
    (drop count stream).StandsIn text := by
  induction count with
  | zero => exact h
  | succ count ih =>
    rw [drop_succ]
    exact ih.skip

theorem toList_skip (stream : TokenStream) : stream.skip.toList = stream.toList.drop 1 := by
  cases hnext : stream.next? with
  | none => rw [skip_of_next?_eq_none hnext, toList_of_next?_eq_none hnext, List.drop_nil]
  | some pair =>
    rw [skip_of_next?_eq_some hnext, toList_of_next?_eq_some hnext, List.drop_succ_cons,
      List.drop_zero]

/-- Requests take tokens off the front and change none of the others. -/
theorem toList_drop (stream : TokenStream) (count : Nat) :
    (drop count stream).toList = stream.toList.drop count := by
  induction count with
  | zero => rfl
  | succ count ih => rw [drop_succ, toList_skip, ih, List.drop_drop]

theorem next?_eq_head? (stream : TokenStream) :
    stream.next? = stream.toList.head?.map fun token => (token, stream.skip) := by
  cases hnext : stream.next? with
  | none => rw [toList_of_next?_eq_none hnext]; rfl
  | some pair =>
    rw [toList_of_next?_eq_some hnext, skip_of_next?_eq_some hnext]
    rfl

theorem next?_drop_of_lt (stream : TokenStream) {count : Nat}
    (h : count < stream.toList.length) :
    (drop count stream).next? = some (stream.toList[count], drop (count + 1) stream) := by
  rw [next?_eq_head?, toList_drop, List.head?_drop, List.getElem?_eq_getElem h, drop_succ]
  rfl

theorem next?_drop_of_le (stream : TokenStream) {count : Nat}
    (h : stream.toList.length ≤ count) : (drop count stream).next? = none := by
  rw [next?_eq_head?, toList_drop, List.drop_eq_nil_of_le h]
  rfl

/-! ## 4. The tiling -/

/-- The tokens of a stream tile what is left of its text. -/
theorem tiles_toList (stream : TokenStream) :
    Extent.Tiles stream.offset (stream.offset + Text.size stream.rest)
      (stream.toList.map Token.extent) := by
  fun_induction TokenStream.toList stream with
  | case1 stream hnext =>
    rw [next?_eq_none_iff.1 hnext]
    rfl
  | case2 stream token after hnext ih =>
    obtain ⟨hstart, hstop⟩ := offset_of_next? hnext
    have hpos := Text.size_pos_of_ne_nil (text_ne_nil_of_next? hnext)
    have hrest : Text.size stream.rest = Text.size token.text + Text.size after.rest := by
      rw [rest_eq_of_next? hnext, Text.size_append]
    have htoken : token.stop = token.start + Text.size token.text := rfl
    refine ⟨hstart, ?_, ?_⟩
    · show stream.offset < token.stop
      omega
    · show Extent.Tiles token.stop _ _
      rw [hstop] at ih
      have hend : stream.offset + Text.size stream.rest = token.stop + Text.size after.rest := by
        omega
      rw [hend]
      exact ih

theorem size_flatMap_of_tiles {list : List Token} {start stop : Nat}
    (h : Extent.Tiles start stop (list.map Token.extent)) :
    start + Text.size (list.flatMap Token.text) = stop := by
  induction list generalizing start with
  | nil => exact h
  | cons token list ih =>
    obtain ⟨hstart, -, hrest⟩ := h
    have hstop : token.stop = start + Text.size token.text := by
      rw [← hstart]
      rfl
    have hsize := ih hrest
    rw [List.flatMap_cons, Text.size_append, ← Nat.add_assoc, ← hstop]
    exact hsize

/-- Where a stream has yielded some of its tokens, those tile what is behind and the others tile
what is ahead. -/
theorem tiles_of_toList_eq_append {early later : List Token} (h : stream.toList = early ++ later) :
    let seam := stream.offset + Text.size (early.flatMap Token.text)
    Extent.Tiles stream.offset seam (early.map Token.extent) ∧
      Extent.Tiles seam (stream.offset + Text.size stream.rest) (later.map Token.extent) := by
  have htiles := tiles_toList stream
  rw [h, List.map_append] at htiles
  obtain ⟨middle, hearly, hlater⟩ := Extent.tiles_append_iff.1 htiles
  have hmiddle := size_flatMap_of_tiles hearly
  subst hmiddle
  exact ⟨hearly, hlater⟩

theorem exists_append_stop (hmem : token ∈ stream.toList) :
    ∃ early later, stream.toList = early ++ token :: later ∧
      token.start = stream.offset + Text.size (early.flatMap Token.text) ∧
      token.stop = stream.offset + Text.size ((early ++ [token]).flatMap Token.text) := by
  obtain ⟨early, later, hsplit⟩ := List.append_of_mem hmem
  have hstart := (tiles_of_toList_eq_append hsplit).2.1
  refine ⟨early, later, hsplit, hstart, ?_⟩
  rw [Token.stop, List.flatMap_append, Text.size_append, List.flatMap_singleton, ← Nat.add_assoc,
    ← hstart]
  rfl

theorem StandsIn.tiles (h : stream.StandsIn text) :
    Extent.Tiles stream.offset (Text.size text) (stream.toList.map Token.extent) :=
  h.offset_add_size ▸ tiles_toList stream

/-- Every token of a stream holds at least one character, and stands in the text. -/
theorem StandsIn.of_mem_toList (h : stream.StandsIn text) (hmem : token ∈ stream.toList) :
    token.text ≠ [] ∧ ∃ before rest, text = before ++ token.text ++ rest ∧
      Text.size before = token.start ∧ Text.size (before ++ token.text) = token.stop := by
  obtain ⟨count, hcount, rfl⟩ := List.mem_iff_getElem.1 hmem
  have hnext := next?_drop_of_lt stream hcount
  exact ⟨text_ne_nil_of_next? hnext, (h.drop count).parts hnext⟩

theorem length_toList_le (stream : TokenStream) : stream.toList.length ≤ stream.rest.length := by
  fun_induction TokenStream.toList stream with
  | case1 stream hnext => simp
  | case2 stream token after hnext ih =>
    have hlt := length_rest_lt_of_next? hnext
    rw [List.length_cons]
    omega

end TokenStream

theorem tiles_tokens (text : List Char) :
    Extent.Tiles 0 (Text.size text) ((tokens text).map Token.extent) := by
  have h := TokenStream.tiles_toList (.ofText text)
  rwa [show (TokenStream.ofText text).offset = 0 from rfl, Nat.zero_add] at h

/-! ## 5. Streams from any offset -/

/-- The tokens of the stream tile the text from `start` to its end, and the requests come to an end:
request number `i` is answered by token number `i`, with the stream at the token's start before it
and at the token's end after it, and each request past the last token is answered by nothing and
leaves the stream at the end of the text. -/
structure TokenStream.TilesFrom (stream : TokenStream) (text : List Char) (start : Nat) :
    Prop where
  tiles : Extent.Tiles start (Text.size text) (stream.toList.map Token.extent)
  eq_nil_iff : stream.toList = [] ↔ start = Text.size text
  text_of_mem : ∀ token ∈ stream.toList, token.text ≠ [] ∧
    ∃ before rest, text = before ++ token.text ++ rest ∧
      Text.size before = token.start ∧ Text.size (before ++ token.text) = token.stop
  flatMap_text : ∃ before rest, text = before ++ rest ∧ Text.size before = start ∧
    stream.toList.flatMap Token.text = rest ∧ stream.toList.length ≤ rest.length
  answer : ∀ (i : Nat) (h : i < stream.toList.length),
    (drop i stream).offset = stream.toList[i].start ∧
    (drop i stream).next? = some (stream.toList[i], drop (i + 1) stream) ∧
    (drop (i + 1) stream).offset = stream.toList[i].stop
  finish : ∀ i, stream.toList.length ≤ i →
    (drop i stream).next? = none ∧ (drop i stream).offset = Text.size text

/-- The tokens from an offset on, whether it is a boundary or not, tile the text from the boundary
at or before the offset. -/
theorem ofOffset_tiles_text (text : List Char) (offset : Nat) :
    (TokenStream.ofOffset text offset).TilesFrom text (Text.floorBoundary text offset) := by
  have hstands : (TokenStream.ofOffset text offset).StandsIn text :=
    TokenStream.standsIn_ofOffset text offset
  rw [← TokenStream.offset_ofOffset]
  generalize TokenStream.ofOffset text offset = stream at hstands ⊢
  constructor
  case tiles => exact hstands.tiles
  case eq_nil_iff =>
    have hempty := hstands.tiles.eq_nil_iff
    rwa [List.map_eq_nil_iff] at hempty
  case text_of_mem =>
    intro token hmem
    exact hstands.of_mem_toList hmem
  case flatMap_text =>
    obtain ⟨before, htext, hsize⟩ := hstands
    exact ⟨before, stream.rest, htext, hsize, stream.flatMap_text_toList, stream.length_toList_le⟩
  case answer =>
    intro i hi
    have hnext := stream.next?_drop_of_lt hi
    obtain ⟨hbefore, hafter⟩ := TokenStream.offset_of_next? hnext
    exact ⟨hbefore.symm, hnext, hafter⟩
  case finish =>
    intro i hi
    have hnext := stream.next?_drop_of_le hi
    have hend := (hstands.drop i).offset_add_size
    rw [TokenStream.next?_eq_none_iff.1 hnext, Text.size_nil, Nat.add_zero] at hend
    exact ⟨hnext, hend⟩

end DroolsInk
