import DroolsInk.Proofs.Tiling

/-!
# What stands before a boundary does not matter

A stream knows how far it is into its text, but no token depends on it: a stream that is moved by
some distance yields the same tokens, moved by that distance. So the tokens from any boundary on are
those of the rest of the text taken by itself, and two texts that end alike have the same tokens in
their common end, if a token starts there in both.

A *seam* of a stream is a place where one of its tokens starts or ends. It parts the tokens into
those before it and those after it, and a stream that starts there yields the latter. Hence streams
of one text that share a seam have all tokens after it in common, wherever they started.
-/

namespace DroolsInk

/-! ## 1. Streams that are moved -/

def Token.shift (distance : Nat) (token : Token) : Token :=
  { token with start := token.start + distance }

def Extent.shift (distance : Nat) (extent : Extent) : Extent :=
  ⟨extent.kind, extent.start + distance, extent.stop + distance⟩

theorem Token.stop_shift (distance : Nat) (token : Token) :
    (token.shift distance).stop = token.stop + distance := by
  simp only [Token.stop, Token.shift]
  omega

theorem Token.extent_shift (distance : Nat) (token : Token) :
    (token.shift distance).extent = token.extent.shift distance := by
  simp only [Token.extent, Token.stop_shift, Extent.shift]
  rfl

namespace TokenStream

def shift (distance : Nat) (stream : TokenStream) : TokenStream :=
  ⟨stream.offset + distance, stream.rest⟩

theorem next?_shift (distance : Nat) (stream : TokenStream) :
    (stream.shift distance).next? =
      stream.next?.map fun (token, after) => (token.shift distance, after.shift distance) := by
  obtain ⟨offset, rest⟩ := stream
  cases rest with
  | nil => rfl
  | cons first rest =>
    simp only [shift, next?, Token.stop, Token.shift, Option.map_some, Option.some.injEq,
      Prod.mk.injEq, TokenStream.mk.injEq, true_and, and_true]
    omega

/-- No token depends on how far the stream is into its text. -/
theorem toList_shift (distance : Nat) (stream : TokenStream) :
    (stream.shift distance).toList = stream.toList.map (Token.shift distance) := by
  fun_induction TokenStream.toList stream with
  | case1 stream hnext =>
    have hshift := stream.next?_shift distance
    rw [hnext] at hshift
    exact toList_of_next?_eq_none hshift
  | case2 stream token after hnext ih =>
    have hshift := stream.next?_shift distance
    rw [hnext] at hshift
    rw [toList_of_next?_eq_some hshift, ih]
    rfl

/-- The tokens of a stream are those of the text that it has left, moved to where it stands. -/
theorem toList_eq_map_shift (stream : TokenStream) :
    stream.toList = (tokens stream.rest).map (Token.shift stream.offset) := by
  have hstream : stream = (ofText stream.rest).shift stream.offset := by
    simp [shift, ofText]
  calc stream.toList = ((ofText stream.rest).shift stream.offset).toList :=
        congrArg toList hstream
    _ = (ofText stream.rest).toList.map (Token.shift stream.offset) := toList_shift _ _

theorem toList_ofOffset_size_append (before rest : List Char) :
    (ofOffset (before ++ rest) (Text.size before)).toList
      = (tokens rest).map (Token.shift (Text.size before)) := by
  rw [ofOffset_size_append, toList_eq_map_shift]

/-! ## 2. Seams -/

variable {stream : TokenStream} {token : Token} {early later : List Token} {text : List Char}
  {seam : Nat}

theorem filter_stop_le_of_append (h : stream.toList = early ++ later) :
    stream.toList.filter (·.stop ≤ stream.offset + Text.size (early.flatMap Token.text))
      = early := by
  obtain ⟨hearly, hlater⟩ := tiles_of_toList_eq_append h
  rw [h]
  apply filter_append_eq_left
  · intro token hmem
    exact decide_eq_true (hearly.bounds_of_mem (List.mem_map_of_mem hmem)).2.2
  · intro token hmem
    have hbounds := hlater.bounds_of_mem (List.mem_map_of_mem hmem)
    simp only [Token.extent] at hbounds
    exact decide_eq_false (by omega)

theorem filter_le_start_of_append (h : stream.toList = early ++ later) :
    stream.toList.filter (stream.offset + Text.size (early.flatMap Token.text) ≤ ·.start)
      = later := by
  obtain ⟨hearly, hlater⟩ := tiles_of_toList_eq_append h
  rw [h]
  apply filter_append_eq_right
  · intro token hmem
    have hbounds := hearly.bounds_of_mem (List.mem_map_of_mem hmem)
    simp only [Token.extent] at hbounds
    exact decide_eq_false (by omega)
  · intro token hmem
    exact decide_eq_true (hlater.bounds_of_mem (List.mem_map_of_mem hmem)).1

/-- A place where a token of the stream starts or ends. -/
def IsSeam (stream : TokenStream) (seam : Nat) : Prop :=
  ∃ token ∈ stream.toList, token.start = seam ∨ token.stop = seam

theorem IsSeam.exists_append (h : stream.IsSeam seam) :
    ∃ early later, stream.toList = early ++ later ∧
      seam = stream.offset + Text.size (early.flatMap Token.text) := by
  obtain ⟨token, hmem, hseam⟩ := h
  obtain ⟨early, later, hsplit, hstart, hstop⟩ := exists_append_stop hmem
  rcases hseam with rfl | rfl
  · exact ⟨early, token :: later, hsplit, hstart⟩
  · refine ⟨early ++ [token], later, ?_, hstop⟩
    rw [List.append_assoc, List.singleton_append]
    exact hsplit

/-- A stream that starts at a seam yields what the first one yields after it. -/
theorem StandsIn.toList_ofOffset_of_append (hstands : stream.StandsIn text)
    (h : stream.toList = early ++ later) :
    (ofOffset text (stream.offset + Text.size (early.flatMap Token.text))).toList = later := by
  have hlist : (TokenStream.drop early.length stream).toList = later := by
    rw [toList_drop, h, List.drop_left]
  have hdrop := hstands.drop early.length
  have hoffset : (TokenStream.drop early.length stream).offset
      = stream.offset + Text.size (early.flatMap Token.text) := by
    have hend := hdrop.offset_add_size
    rw [← flatMap_text_toList, hlist] at hend
    have hwhole := hstands.offset_add_size
    rw [← flatMap_text_toList, h, List.flatMap_append, Text.size_append] at hwhole
    omega
  rw [← hoffset, ← hdrop.eq_ofOffset, hlist]

theorem StandsIn.toList_ofOffset_of_isSeam (hstands : stream.StandsIn text)
    (h : stream.IsSeam seam) :
    (ofOffset text seam).toList = stream.toList.filter (seam ≤ ·.start) ∧
      (ofOffset text seam).toList <:+ stream.toList := by
  obtain ⟨early, later, hsplit, rfl⟩ := h.exists_append
  rw [hstands.toList_ofOffset_of_append hsplit, filter_le_start_of_append hsplit]
  exact ⟨rfl, early, hsplit.symm⟩

/-- The tokens from any offset on are those of the rest of the text, moved to where it starts. From
a seam on, a stream yields what any other stream of the text with that seam yields after it. The
same rest of two texts has the same tokens, up to where it starts. -/
theorem toList_ofOffset_restarts (text : List Char) (offset : Nat) :
    (∃ before rest, text = before ++ rest ∧
      Text.size before = Text.floorBoundary text offset ∧
      (ofOffset text offset).toList
        = (tokens rest).map (Token.shift (Text.floorBoundary text offset))) ∧
    (∀ seam, (ofOffset text offset).IsSeam seam →
      (ofOffset text seam).toList = (ofOffset text offset).toList.filter (seam ≤ ·.start) ∧
      (ofOffset text seam).toList <:+ (ofOffset text offset).toList) ∧
    (∀ other seam, (ofOffset text offset).IsSeam seam → (ofOffset text other).IsSeam seam →
      (ofOffset text offset).toList.filter (seam ≤ ·.start)
        = (ofOffset text other).toList.filter (seam ≤ ·.start)) ∧
    (∀ before front rest : List Char, text = before ++ rest →
      (ofOffset text (Text.size before)).toList.map (Token.shift (Text.size front))
        = (ofOffset (front ++ rest) (Text.size front)).toList.map
            (Token.shift (Text.size before))) := by
  refine ⟨?_, ?_, ?_, ?_⟩
  · refine ⟨(Text.cut text offset).1, (Text.cut text offset).2, (Text.cut_append text offset).symm,
      rfl, ?_⟩
    exact toList_eq_map_shift (ofOffset text offset)
  · intro seam hseam
    exact (standsIn_ofOffset text offset).toList_ofOffset_of_isSeam hseam
  · intro other seam hseam hother
    rw [← ((standsIn_ofOffset text offset).toList_ofOffset_of_isSeam hseam).1,
      ← ((standsIn_ofOffset text other).toList_ofOffset_of_isSeam hother).1]
  · rintro before front rest rfl
    rw [toList_ofOffset_size_append, toList_ofOffset_size_append, List.map_map, List.map_map]
    apply List.map_congr_left
    intro token _
    simp only [Function.comp, Token.shift, Token.mk.injEq, true_and, and_true]
    omega

end TokenStream

end DroolsInk
