import Mathlib.Data.List.TakeWhile
import DroolsInk.Proofs.LongestNumber

/-!
# Words and keywords

Where a word starts, three spellings compete: a hyphenated keyword, the word before its first
hyphen, and a longer word that the keyword runs on into. A hyphenated keyword wins if it stands
there as a whole, which means that no word character follows it. There is one at most, so that it
does not matter in which order the table is searched. Otherwise the token is the whole run of word
characters, and only then is it asked whether the run is a keyword.

What the tokens of a text show of this is simpler. A token is a keyword exactly if its characters
are one of the words in the tables: a hyphenated one cannot be the run of a word, for a hyphen ends
the run, and all of them start like words, so that nothing else can have taken their characters. And
whatever ends with word characters, be it a word, a name behind a sign or a number, ends with all of
them. So no keyword is ever found at the front of a longer word.
-/

namespace DroolsInk

/-! ## 1. The tables -/

namespace Word

/-- A hyphenated keyword stands at the front of the text: it starts the text, and what comes after
it does not go on with a word character. -/
def StandsAt (keyword text : List Char) : Prop :=
  keyword ∈ hyphenatedKeywords ∧ ∃ after, text = keyword ++ after ∧ goesOn after = false

/-- The word is in one of the two tables of words without hyphens. -/
def IsPlainKeyword (word : List Char) : Prop :=
  String.ofList word ∈ ruleKeywords ∨ String.ofList word ∈ javaKeywords

/-- The word is in one of the three tables. -/
def IsReserved (word : List Char) : Prop := IsPlainKeyword word ∨ word ∈ hyphenatedKeywords

instance (word : List Char) : Decidable (IsPlainKeyword word) :=
  inferInstanceAs (Decidable (_ ∨ _))

instance (word : List Char) : Decidable (IsReserved word) :=
  inferInstanceAs (Decidable (_ ∨ _))

variable {keyword other text word rest : List Char} {c first : Char}

theorem isKeyword_iff : isKeyword word = true ↔ IsPlainKeyword word := by
  simp [isKeyword, IsPlainKeyword]

theorem hyphenatedKeyword?_eq_some_iff_standsAt :
    hyphenatedKeyword? text = some keyword ↔ StandsAt keyword text := by
  rw [hyphenatedKeyword?_eq_some_iff]
  constructor
  · rintro ⟨hmem, ⟨after, rfl⟩, hends⟩
    rw [List.drop_left] at hends
    exact ⟨hmem, after, rfl, hends⟩
  · rintro ⟨hmem, after, rfl, hends⟩
    rw [List.drop_left]
    exact ⟨hmem, List.prefix_append keyword after, hends⟩

theorem hyphenatedKeyword?_eq_none_iff :
    hyphenatedKeyword? text = none ↔ ∀ keyword, ¬StandsAt keyword text := by
  rw [Option.eq_none_iff_forall_ne_some]
  exact forall_congr' fun keyword => not_congr hyphenatedKeyword?_eq_some_iff_standsAt

theorem StandsAt.unique (h : StandsAt keyword text) (hother : StandsAt other text) :
    other = keyword := by
  have hfound := hyphenatedKeyword?_eq_some_iff_standsAt.2 h
  rw [hyphenatedKeyword?_eq_some_iff_standsAt.2 hother] at hfound
  exact Option.some.inj hfound

/-- Since one hyphenated keyword at most stands at the front of a text, the table may be searched in
any order. -/
theorem find?_eq_of_perm {table : List (List Char)} (h : table.Perm hyphenatedKeywords)
    (text : List Char) :
    (table.find? fun keyword => keyword.isPrefixOf text && !goesOn (text.drop keyword.length))
      = hyphenatedKeyword? text := by
  cases hfound : hyphenatedKeyword? text with
  | none =>
    rw [hyphenatedKeyword?, List.find?_eq_none] at hfound
    rw [List.find?_eq_none]
    intro keyword hmem
    exact hfound keyword (h.mem_iff.1 hmem)
  | some keyword =>
    have hsome := List.find?_some hfound
    have hmem := h.mem_iff.2 (List.mem_of_find?_eq_some hfound)
    cases hother : table.find? fun keyword =>
        keyword.isPrefixOf text && !goesOn (text.drop keyword.length) with
    | none => exact absurd hsome (List.find?_eq_none.1 hother keyword hmem)
    | some other =>
      have hstarts := List.find?_some hother
      have hmem' := h.mem_iff.1 (List.mem_of_find?_eq_some hother)
      simp only [Bool.and_eq_true, List.isPrefixOf_iff_prefix] at hsome hstarts
      rw [eq_of_prefixes (List.mem_of_find?_eq_some hfound) hmem' hsome.1 hstarts.1]

theorem head_isOpening_of_mem_keywords : ∀ word ∈ ruleKeywords ++ javaKeywords,
    word.toList.head?.any isOpening = true := by
  decide +kernel

/-- A reserved word starts with a character that starts words and nothing else. -/
theorem IsReserved.isOpening (h : IsReserved (first :: rest)) : isOpening first = true := by
  rcases h with hplain | hhyphens
  · have hmem : String.ofList (first :: rest) ∈ ruleKeywords ++ javaKeywords :=
      List.mem_append.2 hplain
    simpa using head_isOpening_of_mem_keywords _ hmem
  · exact head_isOpening_of_mem _ hhyphens

/-- A hyphen parts the words of a hyphenated keyword, so that it is no run of word characters. -/
theorem takeWhile_notMem_hyphenatedKeywords (text : List Char) :
    text.takeWhile isPart ∉ hyphenatedKeywords := by
  intro hmem
  have hlt := run_lt_length_of_mem _ hmem
  rw [run, List.takeWhile_idem] at hlt
  exact Nat.lt_irrefl _ hlt

theorem isStart_eq_false_of_isDigit (h : c.isDigit = true) : isStart c = false := by
  have hcode : 48 ≤ c.toNat ∧ c.toNat ≤ 57 := by
    simpa [Char.isDigit, UInt32.le_iff_toNat_le] using h
  have hdigits : ∀ code < 58, 48 ≤ code →
      (Char.ofNat code == '_' || (Char.ofNat code).isAlpha) = false := by
    decide
  have hc := hdigits c.toNat (by omega) hcode.1
  rwa [Char.ofNat_toNat, ← Text.isLetter_of_lt (by omega)] at hc

theorem isOpening_of_isStart (h : isStart c = true) : isOpening c = true := by
  have hblank : Text.isBlank c = false := by
    rw [Bool.eq_false_iff]
    intro hblank
    have hpart := isPart_of_isStart h
    rw [Text.isPart_eq_false_of_isBlank hblank] at hpart
    cases hpart
  have hdigit : c.isDigit = false := by
    rw [Bool.eq_false_iff]
    intro hdigit
    rw [isStart_eq_false_of_isDigit hdigit] at h
    cases h
  simp [isOpening, hblank, hdigit, h]

end Word

/-! ## 2. What a text that starts like a word is classified as -/

namespace Token

variable {first : Char} {rest keyword : List Char}

theorem classify_of_isStart (h : Word.isStart first = true) :
    classify first rest = wordExtent first rest :=
  classify_of_isOpening (Word.isOpening_of_isStart h) rest

theorem wordExtent_of_standsAt (h : Word.StandsAt keyword (first :: rest)) :
    (wordExtent first rest).1 = .keyword ∧
      first :: rest.take (wordExtent first rest).2 = keyword := by
  obtain ⟨hmem, after, htext, -⟩ := id h
  rw [wordExtent, Word.hyphenatedKeyword?_eq_some_iff_standsAt.2 h]
  refine ⟨rfl, ?_⟩
  cases keyword with
  | nil => exact absurd (Word.run_lt_length_of_mem _ hmem) (Nat.not_lt_zero _)
  | cons c keyword =>
    obtain ⟨rfl, rfl⟩ := List.cons.inj htext
    simp

/-- Without a hyphenated keyword the whole run of word characters is taken. -/
theorem wordExtent_of_not_standsAt (hstart : Word.isStart first = true)
    (h : ∀ keyword, ¬Word.StandsAt keyword (first :: rest)) :
    first :: rest.take (wordExtent first rest).2 = (first :: rest).takeWhile Word.isPart ∧
      (wordExtent first rest).1 =
        if Word.IsPlainKeyword ((first :: rest).takeWhile Word.isPart) then .keyword
        else .identifier := by
  have hrun : first :: rest.take (Word.run rest) = (first :: rest).takeWhile Word.isPart := by
    rw [List.takeWhile_cons_of_pos (Word.isPart_of_isStart hstart), Word.run,
      ← List.prefix_iff_eq_take.1 (List.takeWhile_prefix _)]
  rw [wordExtent, Word.hyphenatedKeyword?_eq_none_iff.2 h]
  refine ⟨hrun, ?_⟩
  simp only [hrun, Word.isKeyword_iff]

/-- Only words are keywords. -/
theorem isStart_of_classify (h : (classify first rest).1 = .keyword) :
    Word.isStart first = true := by
  unfold classify at h
  split at h
  · cases h
  split at h
  · cases h
  split at h
  · next hstart => exact hstart
  · have hkind := fst_symbolExtent_mem first rest
    rw [h] at hkind
    simp at hkind

theorem isReserved_of_classify (h : (classify first rest).1 = .keyword) :
    Word.IsReserved (first :: rest.take (classify first rest).2) := by
  have hstart := isStart_of_classify h
  rw [classify_of_isStart hstart] at h ⊢
  by_cases hstands : ∃ keyword, Word.StandsAt keyword (first :: rest)
  · obtain ⟨keyword, hkeyword⟩ := hstands
    rw [(wordExtent_of_standsAt hkeyword).2]
    exact Or.inr hkeyword.1
  · obtain ⟨htext, hkind⟩ := wordExtent_of_not_standsAt hstart (not_exists.1 hstands)
    rw [hkind, ite_eq_left_iff] at h
    rw [htext]
    exact Or.inl (by_contra fun hplain => nomatch h hplain)

theorem classify_of_isReserved (h : Word.IsReserved (first :: rest.take (classify first rest).2)) :
    (classify first rest).1 = .keyword := by
  have hopening := h.isOpening
  have hstart : Word.isStart first = true := (Bool.and_eq_true_iff.1 hopening).2
  rw [classify_of_isStart hstart] at h ⊢
  by_cases hstands : ∃ keyword, Word.StandsAt keyword (first :: rest)
  · obtain ⟨keyword, hkeyword⟩ := hstands
    exact (wordExtent_of_standsAt hkeyword).1
  · obtain ⟨htext, hkind⟩ := wordExtent_of_not_standsAt hstart (not_exists.1 hstands)
    rw [htext] at h
    rw [hkind]
    rcases h with hplain | hhyphens
    · exact if_pos hplain
    · exact absurd hhyphens (Word.takeWhile_notMem_hyphenatedKeywords _)

/-! ## 3. Where word characters end -/

theorem goesOn_drop_tail (first : Char) (rest : List Char) :
    Word.goesOn (rest.drop (Number.tail first rest)) = false := by
  rw [Number.tail]
  simp only [← List.drop_drop]
  exact goesOn_drop_run _

end Token

/-- The kinds of tokens that end with word characters. -/
def Kind.endsAsWord (kind : Kind) : Bool :=
  kind ∈ [.keyword, .identifier, .boundVariable, .metadata, .number]

namespace Token

variable {first : Char} {rest : List Char}

/-- Of what a sign starts only a name ends with word characters. -/
theorem sign_of_endsAsWord (h : (symbolExtent first rest).1.endsAsWord = true) :
    first = '$' ∨ first = '@' := by
  rw [symbolExtent_eq] at h
  split at h
  · unfold stringExtent at h
    split at h <;> cases h
  split at h
  · unfold slashExtent at h
    split at h
    · cases h
    · split at h <;> cases h
    · cases h
  split at h
  · cases h
  split at h
  · exact Or.inl ‹_›
  split at h
  · exact Or.inr ‹_›
  split at h
  · cases h
  split at h
  · cases h
  split at h <;> cases h

theorem symbolExtent_of_endsAsWord (h : (symbolExtent first rest).1.endsAsWord = true) :
    ∃ kind, symbolExtent first rest = sigilExtent kind rest := by
  rcases sign_of_endsAsWord h with rfl | rfl
  · exact ⟨.boundVariable, rfl⟩
  · exact ⟨.metadata, rfl⟩

theorem goesOn_drop_classify (h : (classify first rest).1.endsAsWord = true) :
    Word.goesOn (rest.drop (classify first rest).2) = false := by
  unfold classify at h ⊢
  split
  · next hblank =>
    rw [if_pos hblank] at h
    cases h
  next hblank =>
  rw [if_neg hblank] at h
  split
  · exact goesOn_drop_tail first rest
  next hdigit =>
  rw [if_neg hdigit] at h
  split
  · exact goesOn_drop_wordExtent first rest
  next hstart =>
  rw [if_neg hstart] at h
  obtain ⟨kind, hsigil⟩ := symbolExtent_of_endsAsWord h
  rw [hsigil]
  exact goesOn_drop_run rest

end Token

/-! ## 4. Words among the tokens -/

/-- The token, with the text that comes after it, is read as its characters ask for. If it starts
like a word it is the hyphenated keyword that stands there, which is the only one to do so, or else
the whole run of word characters. It is a keyword exactly if it is a reserved word, and if it ends
with word characters it ends with all of them. -/
structure Token.ReadsWords (token : Token) (after : List Char) : Prop where
  of_standsAt : token.text.head?.any Word.isStart = true →
    ∀ keyword, Word.StandsAt keyword (token.text ++ after) →
      (∀ other, Word.StandsAt other (token.text ++ after) → other = keyword) ∧
        token.kind = .keyword ∧ token.text = keyword
  of_not_standsAt : token.text.head?.any Word.isStart = true →
    (∀ keyword, ¬Word.StandsAt keyword (token.text ++ after)) →
      token.text = (token.text ++ after).takeWhile Word.isPart ∧
        token.kind = if Word.IsPlainKeyword token.text then .keyword else .identifier
  kind_eq_keyword_iff : token.kind = .keyword ↔ Word.IsReserved token.text
  goesOn_eq_false : token.kind.endsAsWord = true → Word.goesOn after = false

theorem Token.readsWords_of_classify (start : Nat) (first : Char) (rest : List Char) :
    (Token.mk (classify first rest).1 start
      (first :: rest.take (classify first rest).2)).ReadsWords
        (rest.drop (classify first rest).2) := by
  have hwhole : first :: rest.take (classify first rest).2 ++ rest.drop (classify first rest).2
      = first :: rest := by
    rw [List.cons_append, List.take_append_drop]
  constructor
  case of_standsAt =>
    intro hstart keyword hkeyword
    simp only [hwhole] at hkeyword ⊢
    rw [classify_of_isStart hstart]
    obtain ⟨hkind, htext⟩ := wordExtent_of_standsAt hkeyword
    exact ⟨fun other hother => hkeyword.unique hother, hkind, htext⟩
  case of_not_standsAt =>
    intro hstart hnone
    simp only [hwhole] at hnone ⊢
    rw [classify_of_isStart hstart]
    obtain ⟨htext, hkind⟩ := wordExtent_of_not_standsAt hstart hnone
    rw [htext]
    exact ⟨rfl, hkind⟩
  case kind_eq_keyword_iff => exact ⟨isReserved_of_classify, classify_of_isReserved⟩
  case goesOn_eq_false => exact goesOn_drop_classify

namespace TokenStream

variable {stream : TokenStream} {token : Token} {text : List Char}

theorem StandsIn.readsWords_of_mem (h : stream.StandsIn text) (hmem : token ∈ stream.toList) :
    ∃ before after, text = before ++ token.text ++ after ∧ Text.size before = token.start ∧
      token.ReadsWords after := by
  obtain ⟨before, first, behind, rfl, rfl⟩ := h.exists_classify_of_mem hmem
  refine ⟨before, behind.drop (Token.classify first behind).2, ?_, rfl, ?_⟩
  · rw [List.append_assoc, List.cons_append, List.take_append_drop]
  · exact Token.readsWords_of_classify _ first behind

/-- Wherever a scan of a text takes a token, it reads words as they stand there; and it would do so
whatever the order in which the hyphenated keywords are looked for. -/
theorem toList_readsWords (text : List Char) :
    (∀ token ∈ tokens text, ∃ before after, text = before ++ token.text ++ after ∧
      Text.size before = token.start ∧ token.ReadsWords after) ∧
    (∀ offset, ∀ token ∈ (ofOffset text offset).toList,
      ∃ before after, text = before ++ token.text ++ after ∧
        Text.size before = token.start ∧ token.ReadsWords after) ∧
    ∀ table : List (List Char), table.Perm Word.hyphenatedKeywords → ∀ rest,
      (table.find? fun keyword =>
        keyword.isPrefixOf rest && !Word.goesOn (rest.drop keyword.length))
          = Word.hyphenatedKeyword? rest :=
  ⟨fun _ hmem => StandsIn.readsWords_of_mem ⟨[], rfl, rfl⟩ hmem,
    fun offset _ hmem => (standsIn_ofOffset text offset).readsWords_of_mem hmem,
    fun _ hperm rest => Word.find?_eq_of_perm hperm rest⟩

example : (tokens "entry-points entry-point no-loop-x ends".toList).map
      (fun token => (token.kind, String.ofList token.text))
    = [(.keyword, "entry"), (.operator, "-"), (.identifier, "points"), (.blank, " "),
      (.keyword, "entry-point"), (.blank, " "), (.keyword, "no-loop"), (.operator, "-"),
      (.identifier, "x"), (.blank, " "), (.identifier, "ends")] := by
  decide +kernel

end TokenStream

end DroolsInk
