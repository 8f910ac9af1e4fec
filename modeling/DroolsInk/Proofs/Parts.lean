import DroolsInk.Proofs.Restart
import DroolsInk.Proofs.Truncation

/-!
# A text that is cut where a token ends

The tokens of a text up to the end of one of them are the tokens of that part of the text taken by
itself. With the tokens of the rest, which do not depend on what stands before them, this makes
every seam a place where a text may be parted.

One token is such a part too. So it is the single token of its own characters, and what kind it is
can be told from them alone, wherever they were found.
-/

namespace DroolsInk

namespace TokenStream

/-! ## 1. A step that is cut behind its token -/

variable {stream rest : TokenStream} {token : Token} {early later : List Token}
  {offset : Nat} {seen after : List Char}

theorem exists_classify_of_next? (h : stream.next? = some (token, rest)) :
    ∃ first behind, stream.rest = first :: behind ∧
      token = ⟨(Token.classify first behind).1, stream.offset,
        first :: behind.take (Token.classify first behind).2⟩ ∧
      rest = ⟨token.stop, behind.drop (Token.classify first behind).2⟩ := by
  obtain ⟨offset, text⟩ := stream
  cases text with
  | nil => cases h
  | cons first behind =>
    cases h
    exact ⟨first, behind, rfl, rfl, rfl⟩

/-- Wherever a scan started, each of its tokens is what the text from its start on is classified as.
-/
theorem StandsIn.exists_classify_of_mem {text : List Char} (h : stream.StandsIn text)
    (hmem : token ∈ stream.toList) :
    ∃ before first behind, text = before ++ first :: behind ∧
      token = ⟨(Token.classify first behind).1, Text.size before,
        first :: behind.take (Token.classify first behind).2⟩ := by
  obtain ⟨count, hcount, rfl⟩ := List.mem_iff_getElem.1 hmem
  obtain ⟨first, behind, hcons, htoken, -⟩ :=
    exists_classify_of_next? (next?_drop_of_lt stream hcount)
  obtain ⟨before, htext, hsize⟩ := h.drop count
  rw [hcons] at htext
  rw [← hsize] at htoken
  exact ⟨before, first, behind, htext, htoken⟩

/-- A place in a text has one token, whichever scans take a token there. -/
theorem StandsIn.eq_of_start {before behind : List Char} {first : Char}
    (h : stream.StandsIn (before ++ first :: behind)) (hmem : token ∈ stream.toList)
    (hstart : token.start = Text.size before) :
    token = ⟨(Token.classify first behind).1, Text.size before,
      first :: behind.take (Token.classify first behind).2⟩ := by
  obtain ⟨front, c, back, htext, rfl⟩ := h.exists_classify_of_mem hmem
  have hcut := congrArg (Text.cut · (Text.size before)) htext
  rw [Text.cut_size_append, ← show Text.size front = Text.size before from hstart,
    Text.cut_size_append] at hcut
  obtain ⟨rfl, hback⟩ := Prod.mk.inj hcut
  obtain ⟨rfl, rfl⟩ := List.cons.inj hback
  rfl

theorem next?_of_next?_append
    (hnext : (TokenStream.mk offset (seen ++ after)).next? = some (token, rest))
    (hstarts : token.text <+: seen) (hrunsOn : ¬Word.RunsOn seen after) :
    ∃ left, seen = token.text ++ left ∧ rest = ⟨token.stop, left ++ after⟩ ∧
      (TokenStream.mk offset seen).next? = some (token, ⟨token.stop, left⟩) := by
  cases seen with
  | nil => exact absurd (List.prefix_nil.1 hstarts) (text_ne_nil_of_next? hnext)
  | cons first seen =>
    obtain ⟨_, _, hcons, htoken, hrest⟩ := exists_classify_of_next? hnext
    rw [List.cons_append] at hcons
    cases hcons
    have hlength := hstarts.length_le
    rw [htoken, List.length_cons, List.length_take, List.length_append, List.length_cons] at hlength
    -- the token ends in `seen`, or nothing stands behind `seen`
    have hparts : Token.classify first seen = Token.classify first (seen ++ after) ∧
        (seen ++ after).take (Token.classify first (seen ++ after)).2
          = seen.take (Token.classify first (seen ++ after)).2 ∧
        (seen ++ after).drop (Token.classify first (seen ++ after)).2
          = seen.drop (Token.classify first (seen ++ after)).2 ++ after := by
      rcases Nat.lt_or_ge seen.length (Token.classify first (seen ++ after)).2 with hlt | hle
      · have hnil : after = [] := List.eq_nil_of_length_eq_zero (by omega)
        simp only [hnil, List.append_nil, and_self]
      · exact ⟨Token.classify_eq_append hle hrunsOn, List.take_append_of_le_length hle,
          List.drop_append_of_le_length hle⟩
    obtain ⟨hsame, htake, hdrop⟩ := hparts
    rw [htake] at htoken
    rw [hdrop] at hrest
    refine ⟨seen.drop (Token.classify first (seen ++ after)).2, ?_, hrest, ?_⟩
    · rw [htoken, List.cons_append, List.take_append_drop]
    · rw [htoken, next?]
      simp only [hsame]

/-! ## 2. Runs that are cut at a seam -/

/-- What has been yielded up to a seam never spells a keyword that runs on behind the seam. -/
theorem not_runsOn_of_append (h : stream.toList = early ++ later) :
    ¬Word.RunsOn (early.flatMap Token.text) (later.flatMap Token.text) := by
  intro hrunsOn
  rcases List.eq_nil_or_concat early with rfl | ⟨before, token, rfl⟩
  · exact absurd hrunsOn.1 (by decide +kernel)
  · rw [List.concat_eq_append] at h hrunsOn
    -- the stream that yields the last token before the seam
    have hlist : (drop before.length stream).toList = token :: later := by
      rw [toList_drop, h, List.append_assoc, List.drop_left]
      rfl
    have hnext := next?_eq_head? (drop before.length stream)
    rw [hlist] at hnext
    obtain ⟨first, behind, -, htoken, hrest⟩ := exists_classify_of_next? hnext
    have hlater : (drop before.length stream).skip.rest = later.flatMap Token.text := by
      rw [← flatMap_text_toList, toList_skip, hlist]
      rfl
    have hsuffix : token.text <:+ (before ++ [token]).flatMap Token.text := by
      rw [List.flatMap_append, List.flatMap_singleton]
      exact List.suffix_append _ _
    rw [htoken] at hsuffix
    have hends := Token.goesOn_of_suffix (htoken ▸ hrunsOn.1) hsuffix
    have hgoes := hrunsOn.2
    rw [← hlater, hrest, hends] at hgoes
    cases hgoes

/-- A run of a stream that is cut at a seam: it yields the tokens before the seam. The induction is
on those tokens; that the cut leaves no keyword that runs on is known of every seam. -/
theorem toList_eq_of_append :
    ∀ {seen : List Char} {offset : Nat},
      (TokenStream.mk offset (seen ++ after)).toList = early ++ later →
      seen = early.flatMap Token.text → (TokenStream.mk offset seen).toList = early := by
  induction early with
  | nil =>
    rintro seen offset - rfl
    exact toList_of_next?_eq_none rfl
  | cons token early ih =>
    intro seen offset hlist hseen
    have hafter : after = later.flatMap Token.text := by
      have htext := flatMap_text_toList ⟨offset, seen ++ after⟩
      rw [hlist, List.flatMap_append, ← hseen] at htext
      exact (List.append_cancel_left htext).symm
    have hrunsOn := not_runsOn_of_append hlist
    rw [← hseen, ← hafter] at hrunsOn
    have hnext := next?_eq_head? ⟨offset, seen ++ after⟩
    rw [hlist] at hnext
    have hstarts : token.text <+: seen := hseen ▸ List.prefix_append _ _
    obtain ⟨left, hleft, hrest, hcut⟩ := next?_of_next?_append hnext hstarts hrunsOn
    have htail := toList_skip ⟨offset, seen ++ after⟩
    rw [hlist, hrest] at htail
    rw [toList_of_next?_eq_some hcut, ih htail]
    rw [hseen, List.flatMap_cons] at hleft
    exact (List.append_cancel_left hleft).symm

theorem tokens_text_of_mem (hmem : token ∈ stream.toList) :
    tokens token.text = [⟨token.kind, 0, token.text⟩] := by
  obtain ⟨early, later, hsplit⟩ := List.append_of_mem hmem
  have hlist : (drop early.length stream).toList = [token] ++ later := by
    rw [toList_drop, hsplit, List.drop_left]
    rfl
  have hnext := next?_eq_head? (drop early.length stream)
  rw [hlist] at hnext
  have hplace : drop early.length stream
      = ⟨token.start, token.text ++ (drop early.length stream).skip.rest⟩ := by
    rw [(offset_of_next? hnext).1, ← rest_eq_of_next? hnext]
  rw [hplace] at hlist
  have hsingle : (TokenStream.mk token.start token.text).toList = [token] :=
    toList_eq_of_append hlist (List.flatMap_singleton _ _).symm
  rw [toList_eq_map_shift, List.map_eq_singleton_iff] at hsingle
  obtain ⟨⟨kind, start, text⟩, hsingle, htoken⟩ := hsingle
  have hzero : start = 0 := by
    have hsum := congrArg Token.start htoken
    simp only [Token.shift] at hsum
    omega
  rw [hsingle, ← htoken, hzero]
  rfl

end TokenStream

/-! ## 3. Tokens that stand alone -/

/-- Nothing that follows the token in the text is needed to tell it: the text up to its end has the
tokens up to there, the token is the one token of its own characters, and every token with these
characters is of its kind. -/
structure Token.StandsAlone (token : Token) (text : List Char) : Prop where
  part : ∃ part rest, text = part ++ rest ∧ Text.size part = token.stop ∧
    tokens part = (tokens text).filter (·.stop ≤ token.stop)
  alone : tokens token.text = [⟨token.kind, 0, token.text⟩]
  kind_eq : ∀ other, ∀ twin ∈ tokens other, twin.text = token.text → twin.kind = token.kind

theorem standsAlone_of_mem_tokens (text : List Char) (token : Token) (hmem : token ∈ tokens text) :
    token.StandsAlone text := by
  have halone : tokens token.text = [⟨token.kind, 0, token.text⟩] :=
    TokenStream.tokens_text_of_mem hmem
  constructor
  case part =>
    obtain ⟨early, later, hsplit, -, hstop⟩ := TokenStream.exists_append_stop hmem
    have hseam : (TokenStream.ofText text).toList = (early ++ [token]) ++ later := by
      rw [hsplit, List.append_assoc]
      rfl
    have htext : text = (early ++ [token]).flatMap Token.text ++ later.flatMap Token.text := by
      rw [← List.flatMap_append, ← hseam, TokenStream.flatMap_text_toList]
      rfl
    have hwhole : (TokenStream.mk 0 ((early ++ [token]).flatMap Token.text
        ++ later.flatMap Token.text)).toList = (early ++ [token]) ++ later := by
      rw [← htext]
      exact hseam
    refine ⟨_, _, htext, ?_, ?_⟩
    · rw [hstop]
      exact (Nat.zero_add _).symm
    · rw [hstop]
      exact (TokenStream.toList_eq_of_append hwhole rfl).trans
        (TokenStream.filter_stop_le_of_append hseam).symm
  case alone => exact halone
  case kind_eq =>
    intro other twin htwin hsame
    have htwin' : tokens twin.text = [⟨twin.kind, 0, twin.text⟩] :=
      TokenStream.tokens_text_of_mem htwin
    rw [hsame, halone] at htwin'
    injection List.singleton_inj.1 htwin' with hkind
    exact hkind.symm

theorem standsAlone_of_number_before_sign :
    let text := "salience 1e+x".toList
    let token : Token := ⟨.number, 9, "1e".toList⟩
    token ∈ tokens text ∧ token.StandsAlone text := by
  have hmem : (⟨.number, 9, "1e".toList⟩ : Token) ∈ tokens "salience 1e+x".toList := by
    decide +kernel
  exact ⟨hmem, standsAlone_of_mem_tokens _ _ hmem⟩

end DroolsInk
