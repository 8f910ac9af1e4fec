import DroolsInk.Proofs.MaximalMunch

/-!
# Words with blanks between them

A text that is written down as words, each of them one token by itself, with blanks between each two
of them, has these words and blanks as its tokens, and no others. So the blanks of a text can be
laid out anew, and its tokens stay what they are.

A blank ends whatever stands before it, as the end of the text does. No number, word or operator
takes in a blank, and a spelling that would run on ends there. A string literal and a block comment
may hold blanks, but they are closed by then. Only a line comment goes on through a blank, so that
the blanks after one have to begin with the end of its line.
-/

namespace DroolsInk

/-! ## 1. What a blank cannot be -/

namespace Text

variable {c : Char}

/-- Of the ASCII characters, none after the space is blank. -/
theorem lt_or_lt_of_isBlank (h : isBlank c = true) : c.toNat < 33 ∨ 127 < c.toNat := by
  have hlate : inRanges (CharRange.ofPairs [(33, 127)]) c = false :=
    inRanges_eq_false_of_apart (by decide +kernel) h
  simp only [inRanges, CharRange.ofPairs, CharRange.contains, List.map_cons, List.map_nil,
    List.any_cons, List.any_nil, Bool.or_false, Bool.and_eq_false_iff,
    decide_eq_false_iff_not] at hlate
  omega

theorem ne_of_isBlank {other : Char} (h : isBlank c = true) (hother : isBlank other = false) :
    c ≠ other := by
  rintro rfl
  rw [h] at hother
  cases hother

theorem isPart_eq_false_of_isBlank (h : isBlank c = true) : Word.isPart c = false := by
  unfold Word.isPart isLetterOrDigit
  split
  · next hascii =>
    have hsmall : ∀ code < 33,
        (Char.ofNat code == '_' || (Char.ofNat code).isAlphanum) = false := by
      decide
    have hcode : c.toNat < 33 := by
      rcases lt_or_lt_of_isBlank h with hlt | hgt
      · exact hlt
      · omega
    have hc := hsmall c.toNat hcode
    rwa [Char.ofNat_toNat] at hc
  · have hletter : inRanges letterRanges c = false :=
      inRanges_eq_false_of_apart (by decide +kernel) h
    have hnumber : inRanges numberRanges c = false :=
      inRanges_eq_false_of_apart (by decide +kernel) h
    have hunder : c ≠ '_' := ne_of_isBlank h (by decide)
    simp [hletter, hnumber, hunder]

theorem isHexDigit_eq_false_of_isBlank (h : isBlank c = true) : Number.isHexDigit c = false := by
  have hcode := lt_or_lt_of_isBlank h
  simp only [Number.isHexDigit, Char.isDigit, Char.le_def, UInt32.le_iff_toNat_le,
    Bool.or_eq_false_iff, Bool.and_eq_false_iff, decide_eq_false_iff_not, Char.toNat,
    ge_iff_le] at hcode ⊢
  simp only [Char.reduceVal, UInt32.reduceToNat] at hcode ⊢
  omega

theorem isDigit_eq_false_of_isBlank (h : isBlank c = true) : c.isDigit = false := by
  have hhex := isHexDigit_eq_false_of_isBlank h
  simp only [Number.isHexDigit, Bool.or_eq_false_iff] at hhex
  exact hhex.1.1

theorem not_mem_of_mem_hyphenatedKeywords (h : isBlank c = true) {keyword : List Char}
    (hmem : keyword ∈ Word.hyphenatedKeywords) : c ∉ keyword := by
  intro hc
  have hletter := List.all_eq_true.1 (Word.all_isOpening_of_mem keyword hmem) c hc
  rw [Bool.or_eq_true, beq_iff_eq] at hletter
  rcases hletter with rfl | hopening
  · exact absurd h (by decide)
  · simp [Word.isOpening, h] at hopening

end Text

/-! ## 2. Readings that stop before a character -/

/-- From the first character on that has the property `ends`, nothing belongs to what `read` finds.
-/
def StopsAt {α : Type} (ends : Char → Bool) (length : α → Nat) (read : List Char → α) : Prop :=
  ∀ (seen : List Char) (c : Char) (after : List Char), ends c = true →
    length (read (seen ++ c :: after)) ≤ seen.length

namespace StopsAt

variable {ends : Char → Bool}

theorem add {first second : List Char → Nat} (hfirst : StopsAt ends id first)
    (hsecond : StopsAt ends id second) :
    StopsAt ends id fun text => first text + second (text.drop (first text)) := by
  intro seen c after hc
  have hle := hfirst seen c after hc
  simp only [id] at hle ⊢
  rw [List.drop_append_of_le_length hle]
  have hmore := hsecond (seen.drop (first (seen ++ c :: after))) c after hc
  simp only [id, List.length_drop] at hmore
  omega

end StopsAt

theorem stopsAt_takeWhile {ends holds : Char → Bool} (h : ∀ c, ends c = true → holds c = false) :
    StopsAt ends id fun text => (text.takeWhile holds).length := by
  intro seen c after hc
  simp only [id, List.takeWhile_append]
  split
  · next hall => simp [h c hc]
  · exact (List.takeWhile_prefix holds).length_le

theorem stopsAt_leadLength {ends isMark : Char → Bool} {count : List Char → Nat}
    (hmark : ∀ c, ends c = true → isMark c = false) (h : StopsAt ends id count) :
    StopsAt ends id (leadLength isMark count) := by
  intro seen c after hc
  cases seen with
  | nil => simp [leadLength, hmark c hc]
  | cons mark rest =>
    have hle := h rest c after hc
    simp only [id] at hle
    simp only [List.cons_append, leadLength, id, List.length_cons]
    split <;> omega

namespace Number

theorem stopsAt_digits : StopsAt Text.isBlank id digits :=
  stopsAt_takeWhile fun _ hc => Text.isDigit_eq_false_of_isBlank hc

theorem stopsAt_signedDigits : StopsAt Text.isBlank id signedDigits := by
  intro seen c after hc
  simp only [id, signedDigits]
  cases seen with
  | nil =>
    have hplus : c ≠ '+' := Text.ne_of_isBlank hc (by decide)
    have hminus : c ≠ '-' := Text.ne_of_isBlank hc (by decide)
    have hdigits := stopsAt_digits [] c after hc
    simp only [id, List.nil_append, List.length_nil] at hdigits
    rw [List.nil_append, sign_cons_of_ne (not_or.2 ⟨hplus, hminus⟩), List.drop_zero,
      if_pos (Nat.le_zero.1 hdigits)]
    exact Nat.zero_le _
  | cons first rest =>
    have hne : first :: rest ≠ [] := List.cons_ne_nil first rest
    have hlength := sign_le_length (first :: rest)
    rw [drop_sign_append hne, sign_append hne]
    have hdigits := stopsAt_digits ((first :: rest).drop (sign (first :: rest))) c after hc
    simp only [id, List.length_drop] at hdigits
    split <;> omega

theorem stopsAt_decimalTail : StopsAt Text.isBlank id decimalTail := by
  have hfraction : StopsAt Text.isBlank id fraction := by
    rw [fraction_eq_leadLength]
    apply stopsAt_leadLength _ stopsAt_digits
    intro c hc
    exact beq_eq_false_iff_ne.2 (Text.ne_of_isBlank hc (by decide))
  have hexponent : StopsAt Text.isBlank id exponent := by
    rw [exponent_eq_leadLength]
    apply stopsAt_leadLength _ stopsAt_signedDigits
    intro c hc
    have hlower : c ≠ 'e' := Text.ne_of_isBlank hc (by decide)
    have hupper : c ≠ 'E' := Text.ne_of_isBlank hc (by decide)
    simp [hlower, hupper]
  exact (stopsAt_digits.add hfraction).add hexponent

theorem stopsAt_hexTail? (first : Char) : StopsAt Text.isBlank (·.getD 0) (hexTail? first) := by
  rw [hexTail?_eq_leadLength]
  intro seen c after hc
  have hlead : StopsAt Text.isBlank id
      (leadLength (fun mark => first == '0' && (mark == 'x' || mark == 'X'))
        fun rest => (rest.takeWhile isHexDigit).length) := by
    apply stopsAt_leadLength _
      (stopsAt_takeWhile fun _ hc => Text.isHexDigit_eq_false_of_isBlank hc)
    intro c hc
    have hlower : c ≠ 'x' := Text.ne_of_isBlank hc (by decide)
    have hupper : c ≠ 'X' := Text.ne_of_isBlank hc (by decide)
    simp [hlower, hupper]
  simp only [getD_hexTail?]
  exact hlead seen c after hc

theorem stopsAt_tail (first : Char) : StopsAt Text.isBlank id (tail first) := by
  have hliteral :
      StopsAt Text.isBlank id fun rest => (hexTail? first rest).getD (decimalTail rest) := by
    intro seen c after hc
    have hhex := stopsAt_hexTail? first seen c after hc
    simp only [id] at hhex ⊢
    cases hfound : hexTail? first (seen ++ c :: after) with
    | some length =>
      rw [hfound] at hhex
      exact hhex
    | none => exact stopsAt_decimalTail seen c after hc
  have hrun : StopsAt Text.isBlank id Word.run :=
    stopsAt_takeWhile fun _ hc => Text.isPart_eq_false_of_isBlank hc
  exact hliteral.add hrun

end Number

/-! ## 3. A token and the blank after it -/

namespace Token

/-- The text starts as a line comment does. -/
def OpensLine (text : List Char) : Prop := ['/', '/'] <+: text ∨ ['#'] <+: text

instance (text : List Char) : Decidable (OpensLine text) := inferInstanceAs (Decidable (_ ∨ _))

theorem stopsAt_wordExtent (first : Char) : StopsAt Text.isBlank Prod.snd (wordExtent first) := by
  intro seen c after hc
  unfold wordExtent
  cases hfound : Word.hyphenatedKeyword? (first :: (seen ++ c :: after)) with
  | none => exact stopsAt_takeWhile (fun _ hc => Text.isPart_eq_false_of_isBlank hc) seen c after hc
  | some keyword =>
    obtain ⟨hmem, hstarts, -⟩ := Word.hyphenatedKeyword?_eq_some_iff.1 hfound
    rcases Nat.lt_or_ge (first :: seen).length keyword.length with hlt | hge
    · -- the keyword would go on through the blank
      have hblank : first :: seen ++ [c] <+: keyword := by
        apply List.prefix_of_prefix_length_le _ hstarts
        · rw [List.length_append]
          exact hlt
        · exact ⟨after, by simp⟩
      have hc' : c ∈ keyword := hblank.subset (by simp)
      exact absurd hc' (Text.not_mem_of_mem_hyphenatedKeywords hc hmem)
    · rw [List.length_cons] at hge
      simp only
      omega

theorem stopsAt_operatorExtent (first : Char) :
    StopsAt Text.isBlank Prod.snd (operatorExtent first) := by
  intro seen c after hc
  unfold operatorExtent
  cases seen with
  | nil =>
    have hseconds : ∀ pair ∈ operatorPairs, Text.isBlank pair.2 = false := by decide
    have hpair : (first, c) ∉ operatorPairs := by
      intro hmem
      exact Text.ne_of_isBlank hc (hseconds _ hmem) rfl
    simp [hpair]
  | cons second rest =>
    simp only [List.length_cons]
    split <;> omega

theorem stopsAt_sigilExtent (kind : Kind) : StopsAt Text.isBlank Prod.snd (sigilExtent kind) := by
  intro seen c after hc
  exact stopsAt_takeWhile (fun _ hc => Text.isPart_eq_false_of_isBlank hc) seen c after hc

theorem stopsAt_lineLength : StopsAt endsLine id lineLength :=
  stopsAt_takeWhile fun c hc => by simp [hc]

variable {first c : Char} {seen after : List Char}

theorem length_enclosed_append_le {findEnd : List Char → Option Nat} (h : FindsWithin findEnd)
    (hclosed : (enclosed findEnd seen).1 = true) (after : List Char) :
    (enclosed findEnd (seen ++ after)).2 ≤ seen.length := by
  unfold enclosed at hclosed ⊢
  cases hend : findEnd seen with
  | none =>
    rw [hend] at hclosed
    cases hclosed
  | some length =>
    obtain ⟨hwhole, hle⟩ := (h seen after length).2 hend
    rw [hwhole]
    exact hle

theorem length_stringExtent_append_le {mark : Char}
    (hclosed : (stringExtent mark seen).1.isOpen = false) (after : List Char) :
    (stringExtent mark (seen ++ after)).2 ≤ seen.length := by
  rw [isOpen_stringExtent, Bool.not_eq_false'] at hclosed
  rw [stringExtent_eq]
  exact length_enclosed_append_le (findsWithin_stringEnd? mark) hclosed after

theorem length_slashExtent_append_le (hclosed : (slashExtent seen).1.isOpen = false)
    (hblank : Text.isBlank c = true) (hline : OpensLine ('/' :: seen) → endsLine c = true)
    (after : List Char) : (slashExtent (seen ++ c :: after)).2 ≤ seen.length := by
  cases seen with
  | nil =>
    have hslash : c ≠ '/' := Text.ne_of_isBlank hblank (by decide)
    have hstar : c ≠ '*' := Text.ne_of_isBlank hblank (by decide)
    rw [List.nil_append, slashExtent_of_ne hslash hstar]
    exact stopsAt_operatorExtent '/' [] c after hblank
  | cons next rest =>
    rw [List.cons_append, List.length_cons]
    by_cases hslash : next = '/'
    · subst hslash
      have hends : endsLine c = true := hline (Or.inl ⟨rest, rfl⟩)
      have hle := stopsAt_lineLength rest c after hends
      rw [slashExtent.eq_1]
      simp only [id] at hle ⊢
      omega
    · by_cases hstar : next = '*'
      · subst hstar
        rw [isOpen_slashExtent_cons_star, Bool.not_eq_false'] at hclosed
        have hle := length_enclosed_append_le findsWithin_commentEnd? hclosed (c :: after)
        rw [slashExtent_cons_star]
        simp only
        omega
      · rw [slashExtent_of_ne hslash hstar]
        exact stopsAt_operatorExtent '/' (next :: rest) c after hblank

theorem length_symbolExtent_append_le (hclosed : (symbolExtent first seen).1.isOpen = false)
    (hblank : Text.isBlank c = true) (hline : OpensLine (first :: seen) → endsLine c = true)
    (after : List Char) : (symbolExtent first (seen ++ c :: after)).2 ≤ seen.length := by
  rw [symbolExtent_eq] at hclosed ⊢
  split
  · next hquote =>
    rw [if_pos hquote] at hclosed
    exact length_stringExtent_append_le hclosed _
  next hquote =>
  rw [if_neg hquote] at hclosed
  split
  · next hslash =>
    subst hslash
    exact length_slashExtent_append_le hclosed hblank hline after
  split
  · next hhash =>
    subst hhash
    exact stopsAt_lineLength seen c after (hline (Or.inr ⟨seen, rfl⟩))
  split
  · exact stopsAt_sigilExtent .boundVariable seen c after hblank
  split
  · exact stopsAt_sigilExtent .metadata seen c after hblank
  split
  · exact Nat.zero_le _
  split
  · exact Nat.zero_le _
  split
  · exact stopsAt_operatorExtent first seen c after hblank
  · exact Nat.zero_le _

/-- The first token of a part that is neither blank nor open ends within the part where a blank
stands behind it, if that one ends the line of a line comment. -/
theorem length_classify_append_le (hkind : (classify first seen).1 ≠ .blank)
    (hclosed : (classify first seen).1.isOpen = false) (hblank : Text.isBlank c = true)
    (hline : OpensLine (first :: seen) → endsLine c = true) (after : List Char) :
    (classify first (seen ++ c :: after)).2 ≤ seen.length := by
  unfold classify at hkind hclosed ⊢
  split
  · next hfirst =>
    rw [if_pos hfirst] at hkind
    exact absurd rfl hkind
  next hfirst =>
  rw [if_neg hfirst] at hclosed
  split
  · exact Number.stopsAt_tail first seen c after hblank
  next hdigit =>
  rw [if_neg hdigit] at hclosed
  split
  · exact stopsAt_wordExtent first seen c after hblank
  next hstart =>
  rw [if_neg hstart] at hclosed
  exact length_symbolExtent_append_le hclosed hblank hline after

end Token

/-! ## 4. Pieces that are lexed one by one -/

namespace TokenStream

variable {first : Char} {part after : List Char} {kind : Kind}

theorem eq_of_tokens_eq_singleton {single : Token} (h : tokens part = [single]) :
    single = ⟨single.kind, 0, part⟩ := by
  have htext := flatMap_text_tokens part
  rw [h, List.flatMap_singleton] at htext
  have hmem : single ∈ (ofText part).toList := by
    rw [show (ofText part).toList = [single] from h]
    exact List.mem_singleton_self single
  have halone := tokens_text_of_mem hmem
  rw [htext, h] at halone
  exact List.singleton_inj.1 halone

/-- A part that is one token by itself is the next token where it stands, if that one ends within it
and the part is no spelling that runs on. -/
theorem toList_append_of_single (h : tokens (first :: part) = [⟨kind, 0, first :: part⟩])
    (hle : (Token.classify first (part ++ after)).2 ≤ part.length)
    (hrunsOn : ¬Word.RunsOn (first :: part) after) (offset : Nat) :
    (TokenStream.mk offset (first :: part ++ after)).toList
      = ⟨kind, offset, first :: part⟩
        :: (TokenStream.mk (offset + Text.size (first :: part)) after).toList := by
  obtain ⟨hkind, hge⟩ := classify_of_tokens_eq_singleton h
  have hsame := Token.classify_eq_append hle hrunsOn
  have hlength : (Token.classify first (part ++ after)).2 = part.length := by
    rw [hsame] at hge
    exact Nat.le_antisymm hle hge
  apply toList_of_next?_eq_some
  rw [List.cons_append, next?, show kind = _ from hkind, hsame]
  simp only [hlength, List.take_left, List.drop_left]
  rfl

end TokenStream

/-- The tokens with the texts and kinds of `list`, one right after the other from an offset on. -/
def Token.layOut : Nat → List Token → List Token
  | _, [] => []
  | offset, token :: list =>
    { token with start := offset } :: layOut (offset + Text.size token.text) list

/-- The members of two lists by turns, the first list first, and what is left of it at the end. -/
def weave {α : Type} : List α → List α → List α
  | word :: words, gap :: gaps => word :: gap :: weave words gaps
  | words, _ => words

/-- Words that are one token each, neither blank nor open, and blanks to stand between them, where
those after a line comment begin with the end of its line. -/
structure Spaced (words gaps : List (List Char)) : Prop where
  count : gaps.length = words.length - 1
  alone : ∀ word ∈ words, (tokens word).length = 1 ∧
    ∀ single ∈ tokens word, single.kind ≠ .blank ∧ single.kind.isOpen = false
  blank : ∀ gap ∈ gaps, gap ≠ [] ∧ ∀ c ∈ gap, Text.isBlank c = true
  line : ∀ pair ∈ words.zip gaps, Token.OpensLine pair.1 → pair.2.head?.any Token.endsLine = true

namespace Spaced

variable {word gap : List Char} {words gaps : List (List Char)}

theorem exists_kind (h : Spaced words gaps) (hmem : word ∈ words) :
    ∃ first part kind, word = first :: part ∧ tokens word = [⟨kind, 0, word⟩] ∧
      Text.isBlank first = false ∧ kind ≠ .blank ∧ kind.isOpen = false := by
  obtain ⟨hlength, hkinds⟩ := h.alone word hmem
  obtain ⟨single, hsingle⟩ := List.length_eq_one_iff.1 hlength
  obtain ⟨hkind, hclosed⟩ := hkinds single (hsingle ▸ List.mem_singleton_self single)
  cases word with
  | nil => exact absurd (tokens_nil.symm.trans hsingle) nofun
  | cons first part =>
    refine ⟨first, part, single.kind, rfl, ?_, ?_, hkind, hclosed⟩
    · rw [hsingle]
      exact congrArg ([·]) (TokenStream.eq_of_tokens_eq_singleton hsingle)
    · rw [Bool.eq_false_iff]
      intro hblank
      apply hkind
      rw [(TokenStream.classify_of_tokens_eq_singleton hsingle).1, Token.classify, if_pos hblank]

theorem tail (h : Spaced (word :: words) (gap :: gaps)) : Spaced words gaps := by
  have hcount := h.count
  simp only [List.length_cons] at hcount
  constructor
  case count => omega
  case alone => exact fun other hmem => h.alone other (List.mem_cons_of_mem _ hmem)
  case blank => exact fun other hmem => h.blank other (List.mem_cons_of_mem _ hmem)
  case line => exact fun pair hmem => h.line pair (List.mem_cons_of_mem _ hmem)

/-- What is woven from words and gaps begins with a word. -/
theorem exists_cons (h : Spaced words gaps) (hne : words ≠ []) :
    ∃ first rest, (weave words gaps).flatten = first :: rest ∧ Text.isBlank first = false := by
  cases words with
  | nil => exact absurd rfl hne
  | cons word words =>
    obtain ⟨first, part, -, rfl, -, hfirst, -, -⟩ := h.exists_kind List.mem_cons_self
    cases gaps with
    | nil => exact ⟨first, _, rfl, hfirst⟩
    | cons gap gaps => exact ⟨first, _, rfl, hfirst⟩

end Spaced

namespace TokenStream

variable {word gap : List Char} {words gaps : List (List Char)}

/-- A word is the next token where a gap stands behind it. -/
theorem toList_word_append (h : Spaced (word :: words) (gap :: gaps)) (offset : Nat)
    (rest : List Char) :
    ∃ kind, tokens word = [⟨kind, 0, word⟩] ∧
      (TokenStream.mk offset (word ++ (gap ++ rest))).toList
        = ⟨kind, offset, word⟩
          :: (TokenStream.mk (offset + Text.size word) (gap ++ rest)).toList := by
  obtain ⟨first, part, kind, rfl, halone, -, hkind, hclosed⟩ := h.exists_kind List.mem_cons_self
  obtain ⟨hne, hblanks⟩ := h.blank gap List.mem_cons_self
  have hline := h.line _ List.mem_cons_self
  cases gap with
  | nil => exact absurd rfl hne
  | cons c blanks =>
    have hblank := hblanks c List.mem_cons_self
    have hextent : kind = (Token.classify first part).1 :=
      (classify_of_tokens_eq_singleton halone).1
    rw [hextent] at hkind hclosed
    refine ⟨kind, halone, toList_append_of_single halone ?_ ?_ offset⟩
    · exact Token.length_classify_append_le hkind hclosed hblank hline (blanks ++ rest)
    · rintro ⟨-, hgoes⟩
      have hpart : Word.isPart c = true := hgoes
      rw [Text.isPart_eq_false_of_isBlank hblank] at hpart
      cases hpart

/-- Blanks are one token up to the first character that is none. -/
theorem toList_blanks_append (hne : gap ≠ []) (hblanks : ∀ c ∈ gap, Text.isBlank c = true)
    {first : Char} (hfirst : Text.isBlank first = false) (offset : Nat) (rest : List Char) :
    (TokenStream.mk offset (gap ++ first :: rest)).toList
      = ⟨.blank, offset, gap⟩
        :: (TokenStream.mk (offset + Text.size gap) (first :: rest)).toList := by
  cases gap with
  | nil => exact absurd rfl hne
  | cons c blanks =>
    have htaken : (blanks ++ first :: rest).takeWhile Text.isBlank = blanks := by
      rw [List.takeWhile_append_of_pos
          fun other hmem => hblanks other (List.mem_cons_of_mem _ hmem),
        List.takeWhile_cons_of_neg (by simp [hfirst]), List.append_nil]
    have hextent : Token.classify c (blanks ++ first :: rest) = (.blank, blanks.length) := by
      rw [Token.classify, if_pos (hblanks c List.mem_cons_self), htaken]
    apply toList_of_next?_eq_some
    rw [List.cons_append, next?]
    simp only [hextent, List.take_left, List.drop_left]
    rfl

/-- A run over words and gaps: each of them is one token, and the next one starts right after it.
The induction is on the gaps; the word before a gap and the gap itself are two steps of the stream.
-/
theorem toList_weave (h : Spaced words gaps) (offset : Nat) :
    (TokenStream.mk offset (weave words gaps).flatten).toList
      = Token.layOut offset
          (weave (words.flatMap tokens) (gaps.map fun gap => ⟨.blank, 0, gap⟩)) := by
  induction gaps generalizing words offset with
  | nil =>
    cases words with
    | nil => exact toList_of_next?_eq_none rfl
    | cons word words =>
      have hnil : words = [] := List.eq_nil_of_length_eq_zero (by simpa using h.count.symm)
      subst hnil
      obtain ⟨-, -, kind, -, halone, -⟩ := h.exists_kind List.mem_cons_self
      have htext : (weave [word] []).flatten = word := List.append_nil word
      rw [toList_eq_map_shift, htext, List.flatMap_singleton, halone, List.map_singleton,
        Token.shift, Nat.zero_add]
      rfl
  | cons gap gaps ih =>
    cases words with
    | nil => exact absurd h.count (by simp)
    | cons word words =>
      have hwords : words ≠ [] := by
        rintro rfl
        exact absurd h.count (by simp)
      obtain ⟨first, rest, hrest, hfirst⟩ := h.tail.exists_cons hwords
      obtain ⟨hne, hblanks⟩ := h.blank gap List.mem_cons_self
      obtain ⟨kind, halone, hword⟩ := toList_word_append h offset (weave words gaps).flatten
      have hgap := toList_blanks_append hne hblanks hfirst (offset + Text.size word) rest
      rw [← hrest, ih h.tail] at hgap
      rw [hgap] at hword
      rw [List.flatMap_cons, halone]
      exact hword

end TokenStream

/-- The tokens of a spaced text are its words and its gaps by turns, each word of the kind that it
has by itself and each gap one blank. -/
theorem tokens_weave_of_spaced (words gaps : List (List Char)) (h : Spaced words gaps) :
    tokens (weave words gaps).flatten
      = Token.layOut 0 (weave (words.flatMap tokens) (gaps.map fun gap => ⟨.blank, 0, gap⟩)) :=
  TokenStream.toList_weave h 0

theorem tokens_weave_of_cut_exponent :
    let words := ["1e", "// no-loop", "lock-on-active", "$", "/", "'a b'"].map String.toList
    let gaps := [" ", "\r\n ", "\u2003", "\t", "\n"].map String.toList
    Spaced words gaps ∧ tokens (weave words gaps).flatten
      = Token.layOut 0 (weave (words.flatMap tokens) (gaps.map fun gap => ⟨.blank, 0, gap⟩)) := by
  intro words gaps
  have hgaps : gaps.all (fun gap => !gap.isEmpty && gap.all Text.isBlank) = true := by
    decide +kernel
  have hspaced : Spaced words gaps := by
    constructor
    case count => decide +kernel
    case alone => decide +kernel
    case blank => simpa using hgaps
    case line => decide +kernel
  exact ⟨hspaced, tokens_weave_of_spaced words gaps hspaced⟩

end DroolsInk
