import Mathlib.Computability.Language
import DroolsInk.Proofs.Spacing

/-!
# Numbers are the longest words of their grammar

The grammar of number literals is a regular language: a hexadecimal or a decimal literal, and any
word characters after it. A number is read in one pass, without going back: the hexadecimal digits
first, and only without any the decimal literal, then its fraction, its exponent and the suffix,
each as long as it can be. What this finds is the longest word of the language at the front of the
text.

Two parts that are each the longest need not make up the longest whole, since a shorter first part
might leave more to the second. It cannot where the first part always stops before whatever the
second can start with, which is so for the whole digits, the fraction and the exponent. Word
characters may well start with what a literal goes on with; but a run of them which starts inside a
longer literal ends where that literal and the run after it end, or before. Where both literals can
be read, the zero before the `x` is all there is of the decimal one.
-/

namespace DroolsInk

open scoped Computability

/-! ## 1. Readings of a language -/

/-- The words of one character that has the property. -/
def oneOf (holds : Char → Bool) : Language Char := {word | ∃ c, holds c = true ∧ word = [c]}

/-- The words of one or more characters that have the property. -/
def manyOf (holds : Char → Bool) : Language Char := oneOf holds * (oneOf holds)∗

section Languages

variable {holds : Char → Bool} {language : Language Char} {word : List Char} {c : Char}

theorem cons_mem_oneOf_mul :
    c :: word ∈ oneOf holds * language ↔ holds c = true ∧ word ∈ language := by
  rw [Language.mem_mul]
  constructor
  · rintro ⟨_, ⟨mark, hmark, rfl⟩, behind, hbehind, heq⟩
    obtain ⟨rfl, rfl⟩ := List.cons.inj heq
    exact ⟨hmark, hbehind⟩
  · rintro ⟨hc, hword⟩
    exact ⟨[c], ⟨c, hc, rfl⟩, word, hword, rfl⟩

theorem nil_notMem_oneOf_mul : [] ∉ oneOf holds * language := by
  rw [Language.mem_mul]
  rintro ⟨_, ⟨mark, -, rfl⟩, behind, -, heq⟩
  cases heq

theorem mem_kstar_oneOf : word ∈ (oneOf holds)∗ ↔ ∀ c ∈ word, holds c = true := by
  rw [← Language.one_add_self_mul_kstar_eq_kstar, Language.mem_add, Language.mem_one]
  induction word with
  | nil => simp
  | cons c word ih =>
    rw [cons_mem_oneOf_mul, ← Language.one_add_self_mul_kstar_eq_kstar, Language.mem_add,
      Language.mem_one, ih, List.forall_mem_cons]
    simp

theorem nil_notMem_manyOf (holds : Char → Bool) : [] ∉ manyOf holds := nil_notMem_oneOf_mul

theorem cons_mem_one_add_oneOf_mul :
    c :: word ∈ 1 + oneOf holds * language ↔ holds c = true ∧ word ∈ language := by
  rw [Language.mem_add, cons_mem_oneOf_mul, Language.mem_one,
    or_iff_right (List.cons_ne_nil c word)]

theorem mem_oneOf_and_mul (fixed : Bool) :
    word ∈ oneOf (fun c => fixed && holds c) * language ↔
      fixed = true ∧ word ∈ oneOf holds * language := by
  cases word with
  | nil => simp [nil_notMem_oneOf_mul]
  | cons c word => simp only [cons_mem_oneOf_mul, Bool.and_eq_true, and_assoc]

end Languages

theorem leadLength_cons (isMark : Char → Bool) (count : List Char → Nat) (mark : Char)
    (rest : List Char) : leadLength isMark count (mark :: rest) =
      if isMark mark = true ∧ 0 < count rest then 1 + count rest else 0 := rfl

theorem exists_of_leadLength_pos {isMark : Char → Bool} {count : List Char → Nat} {text : List Char}
    (h : 0 < leadLength isMark count text) :
    ∃ mark rest, text = mark :: rest ∧ isMark mark = true := by
  cases text with
  | nil => cases h
  | cons mark rest =>
    rw [leadLength_cons] at h
    split at h
    · next hfound => exact ⟨mark, rest, rfl, hfound.1⟩
    · cases h

/-- A run that starts earlier by some characters goes on no further than the one that starts later.
-/
theorem length_takeWhile_le (holds : Char → Bool) (text : List Char) (count : Nat) :
    (text.takeWhile holds).length ≤ count + ((text.drop count).takeWhile holds).length := by
  have hsplit := congrArg (List.takeWhile holds) (List.take_append_drop count text)
  rw [← hsplit, List.takeWhile_append]
  have htake := List.length_take_le count text
  split
  · rw [List.length_append]
    exact Nat.add_le_add_right htake _
  · have hrun := (List.takeWhile_prefix (l := text.take count) holds).length_le
    omega

/-- What is read at the front of any text is a word of the language, and no word of the language
that stands there is longer. -/
structure ReadsLongest (language : Language Char) (read : List Char → Nat) : Prop where
  le_length : ∀ text : List Char, read text ≤ text.length
  mem : ∀ text : List Char, text.take (read text) ∈ language
  le : ∀ word ∈ language, ∀ rest, word.length ≤ read (word ++ rest)

namespace ReadsLongest

variable {language first second : Language Char} {read more : List Char → Nat}
  {holds isMark ends : Char → Bool}

theorem takeWhile (holds : Char → Bool) :
    ReadsLongest (oneOf holds)∗ fun text => (text.takeWhile holds).length := by
  constructor
  case le_length => exact fun text => (List.takeWhile_prefix holds).length_le
  case mem =>
    intro text
    rw [← List.prefix_iff_eq_take.1 (List.takeWhile_prefix holds), mem_kstar_oneOf]
    exact List.all_eq_true.1 List.all_takeWhile
  case le =>
    intro word hword rest
    rw [List.takeWhile_append_of_pos (mem_kstar_oneOf.1 hword), List.length_append]
    exact Nat.le_add_right _ _

theorem one_add_manyOf (holds : Char → Bool) :
    ReadsLongest (1 + manyOf holds) fun text => (text.takeWhile holds).length := by
  rw [manyOf, Language.one_add_self_mul_kstar_eq_kstar]
  exact takeWhile holds

theorem mem_of_pos (h : ReadsLongest (1 + language) read) {text : List Char}
    (hpos : 0 < read text) :
    text.take (read text) ∈ language := by
  rcases (Language.mem_add _ _ _).1 (h.mem text) with hempty | hmem
  · have hlength := h.le_length text
    have hzero := congrArg List.length ((Language.mem_one _).1 hempty)
    rw [List.length_take, List.length_nil] at hzero
    omega
  · exact hmem

/-- A mark and what it leads in are read if there is any of it. -/
theorem leadLength (h : ReadsLongest (1 + language) read) (hnil : [] ∉ language) :
    ReadsLongest (1 + oneOf isMark * language) (DroolsInk.leadLength isMark read) := by
  constructor
  case le_length =>
    intro text
    cases text with
    | nil => exact Nat.le_refl 0
    | cons mark rest =>
      have hle := h.le_length rest
      rw [leadLength_cons]
      split
      · rw [List.length_cons]
        omega
      · exact Nat.zero_le _
  case mem =>
    intro text
    rw [Language.mem_add]
    cases text with
    | nil => exact Or.inl rfl
    | cons mark rest =>
      rw [leadLength_cons]
      split
      · next hfound =>
        rw [Nat.add_comm 1, List.take_succ_cons, cons_mem_oneOf_mul]
        exact Or.inr ⟨hfound.1, h.mem_of_pos hfound.2⟩
      · exact Or.inl rfl
  case le =>
    rintro word (rfl | hword) rest
    · exact Nat.zero_le _
    · cases word with
      | nil => exact absurd hword nil_notMem_oneOf_mul
      | cons mark word =>
        obtain ⟨hmark, hword⟩ := cons_mem_oneOf_mul.1 hword
        have hle := h.le word (Or.inr hword) rest
        have hpos : 0 < word.length := List.length_pos_iff.2 (ne_of_mem_of_not_mem hword hnil)
        rw [List.cons_append, leadLength_cons, if_pos ⟨hmark, by omega⟩, List.length_cons]
        omega

/-- Two readings one after the other, where the first stops before whatever the second can start
with. -/
theorem mul (hfirst : ReadsLongest first read) (hsecond : ReadsLongest second more)
    (hstops : StopsAt ends id read) (hstarts : ∀ c word, c :: word ∈ second → ends c = true) :
    ReadsLongest (first * second) fun text => read text + more (text.drop (read text)) := by
  constructor
  case le_length =>
    intro text
    have hread := hfirst.le_length text
    have hmore := hsecond.le_length (text.drop (read text))
    rw [List.length_drop] at hmore
    omega
  case mem =>
    intro text
    rw [List.take_add]
    exact Language.append_mem_mul (hfirst.mem text) (hsecond.mem _)
  case le =>
    intro word hword rest
    obtain ⟨part, hpart, behind, hbehind, rfl⟩ := Language.mem_mul.1 hword
    have hle := hfirst.le part hpart (behind ++ rest)
    rw [List.append_assoc, List.length_append]
    cases behind with
    | nil => exact hle.trans (Nat.le_add_right _ _)
    | cons c behind =>
      -- the first reading stops at `c`, so that the second starts where `behind` does
      have hge : read (part ++ (c :: behind ++ rest)) ≤ part.length :=
        hstops part c (behind ++ rest) (hstarts c behind hbehind)
      rw [Nat.le_antisymm hge hle, List.drop_left]
      exact Nat.add_le_add_left (hsecond.le _ hbehind rest) _

/-- A reading and a run after it. The run may start with anything; but if it started earlier, it
would go no further than the run that starts at the end of the reading. -/
theorem mul_kstar (h : ReadsLongest language read) :
    ReadsLongest (language * (oneOf holds)∗) fun text =>
      read text + ((text.drop (read text)).takeWhile holds).length := by
  have hrun := takeWhile holds
  constructor
  case le_length =>
    intro text
    have hread := h.le_length text
    have hmore := hrun.le_length (text.drop (read text))
    rw [List.length_drop] at hmore
    omega
  case mem =>
    intro text
    rw [List.take_add]
    exact Language.append_mem_mul (h.mem text) (hrun.mem _)
  case le =>
    intro word hword rest
    obtain ⟨part, hpart, behind, hbehind, rfl⟩ := Language.mem_mul.1 hword
    have hle := h.le part hpart (behind ++ rest)
    have hmore := hrun.le behind hbehind rest
    -- the reading may go on past `part`, and then `behind` starts inside it
    have hreach := length_takeWhile_le holds (behind ++ rest)
      (read (part ++ (behind ++ rest)) - part.length)
    rw [← List.drop_length_add_append, Nat.add_sub_cancel' hle] at hreach
    rw [List.append_assoc, List.length_append]
    omega

/-- A reading that is tried first, and one that takes over where the first finds nothing. Nothing is
missed if there is nothing for the second where the first finds something. -/
theorem orElse (hfirst : ReadsLongest (1 + first) read) (hsecond : ReadsLongest second more)
    (hapart : ∀ text, 0 < read text → more text = 0) :
    ReadsLongest (first + second) fun text => if read text = 0 then more text else read text := by
  constructor
  case le_length =>
    intro text
    have hread := hfirst.le_length text
    have hmore := hsecond.le_length text
    split <;> assumption
  case mem =>
    intro text
    rw [Language.mem_add]
    split
    · exact Or.inr (hsecond.mem text)
    · next hfound => exact Or.inl (hfirst.mem_of_pos (Nat.pos_of_ne_zero hfound))
  case le =>
    rintro word (hword | hword) rest
    · have hle := hfirst.le word (Or.inr hword) rest
      split <;> omega
    · have hle := hsecond.le word hword rest
      split
      · exact hle
      · next hfound =>
        have hzero := hapart _ (Nat.pos_of_ne_zero hfound)
        omega

end ReadsLongest

/-! ## 2. The grammar of numbers -/

namespace Number

/-- `0x` or `0X` and hexadecimal digits. -/
def hexadecimal : Language Char :=
  oneOf (· == '0') * oneOf (fun mark => mark == 'x' || mark == 'X') * manyOf isHexDigit

/-- A point and digits. -/
def fractions : Language Char := oneOf (· == '.') * manyOf Char.isDigit

/-- `e` or `E`, perhaps a sign, and digits. -/
def exponents : Language Char :=
  oneOf (fun mark => mark == 'e' || mark == 'E') *
    ((1 + oneOf fun mark => mark == '+' || mark == '-') * manyOf Char.isDigit)

/-- Digits, perhaps a fraction, and perhaps an exponent. -/
def decimal : Language Char := manyOf Char.isDigit * (1 + fractions) * (1 + exponents)

/-- A hexadecimal or decimal literal and any word characters after it. -/
def grammar : Language Char := (hexadecimal + decimal) * (oneOf Word.isPart)∗

/-- What a word of the grammar goes on with after its first digit. -/
def tails (first : Char) : Language Char :=
  (oneOf (fun mark => first == '0' && (mark == 'x' || mark == 'X')) * manyOf isHexDigit +
    (oneOf Char.isDigit)∗ * (1 + fractions) * (1 + exponents)) * (oneOf Word.isPart)∗

theorem cons_mem_grammar {first : Char} {word : List Char} :
    first :: word ∈ grammar ↔ first.isDigit = true ∧ word ∈ tails first := by
  have hzero : first = '0' → first.isDigit = true := by
    rintro rfl
    rfl
  simp only [grammar, hexadecimal, decimal, tails, manyOf, add_mul, mul_assoc, Language.mem_add,
    cons_mem_oneOf_mul, mem_oneOf_and_mul, beq_iff_eq]
  constructor
  · rintro (⟨hfirst, hword⟩ | ⟨hdigit, hword⟩)
    · exact ⟨hzero hfirst, Or.inl ⟨hfirst, hword⟩⟩
    · exact ⟨hdigit, Or.inr hword⟩
  · rintro ⟨hdigit, ⟨hfirst, hword⟩ | hword⟩
    · exact Or.inl ⟨hfirst, hword⟩
    · exact Or.inr ⟨hdigit, hword⟩

theorem nil_notMem_grammar : [] ∉ grammar := by
  simp only [grammar, hexadecimal, decimal, manyOf, add_mul, mul_assoc, Language.mem_add,
    nil_notMem_oneOf_mul, or_self, not_false_eq_true]

/-! ## 3. How numbers are read -/

theorem readsLongest_digits : ReadsLongest (1 + manyOf Char.isDigit) digits :=
  ReadsLongest.one_add_manyOf Char.isDigit

theorem readsLongest_fraction : ReadsLongest (1 + fractions) fraction := by
  rw [fraction_eq_leadLength]
  exact readsLongest_digits.leadLength (nil_notMem_manyOf _)

/-- A sign leads in digits as a mark does, but the digits count without it too. -/
theorem signedDigits_eq_orElse :
    signedDigits = fun text =>
      if leadLength (fun mark => mark == '+' || mark == '-') digits text = 0 then digits text
      else leadLength (fun mark => mark == '+' || mark == '-') digits text := by
  funext text
  cases text with
  | nil => rfl
  | cons mark rest =>
    simp only [leadLength_cons, signedDigits]
    by_cases hsign : mark = '+' ∨ mark = '-'
    · have hone : sign (mark :: rest) = 1 := by rcases hsign with rfl | rfl <;> rfl
      have hnone : digits (mark :: rest) = 0 := by rcases hsign with rfl | rfl <;> rfl
      have hrest : (mark :: rest).drop 1 = rest := rfl
      rw [hone, hnone, hrest]
      by_cases hzero : digits rest = 0
      · simp [hzero]
      · simp [hzero, hsign, Nat.pos_of_ne_zero hzero]
    · rw [sign_cons_of_ne hsign, List.drop_zero]
      simp only [Bool.or_eq_true, beq_iff_eq, hsign, false_and, if_false, if_true, Nat.zero_add]
      exact ite_eq_right_iff.2 Eq.symm

theorem readsLongest_signedDigits :
    ReadsLongest (1 + (1 + oneOf fun mark => mark == '+' || mark == '-') * manyOf Char.isDigit)
      signedDigits := by
  have hlanguage : 1 + (1 + oneOf fun mark => mark == '+' || mark == '-') * manyOf Char.isDigit =
      (oneOf fun mark => mark == '+' || mark == '-') * manyOf Char.isDigit +
        (1 + manyOf Char.isDigit) := by
    rw [add_mul, one_mul, ← add_assoc, add_comm]
  rw [hlanguage, signedDigits_eq_orElse]
  apply (readsLongest_digits.leadLength (nil_notMem_manyOf _)).orElse readsLongest_digits
  intro text hfound
  obtain ⟨mark, rest, rfl, hsign⟩ := exists_of_leadLength_pos hfound
  rcases Bool.or_eq_true_iff.1 hsign with hsign | hsign <;> rw [beq_iff_eq.1 hsign] <;> rfl

theorem readsLongest_exponent : ReadsLongest (1 + exponents) exponent := by
  rw [exponent_eq_leadLength]
  apply readsLongest_signedDigits.leadLength
  rw [add_mul, one_mul, Language.mem_add]
  exact not_or.2 ⟨nil_notMem_manyOf _, nil_notMem_oneOf_mul⟩

theorem readsLongest_decimalTail :
    ReadsLongest ((oneOf Char.isDigit)∗ * (1 + fractions) * (1 + exponents)) decimalTail := by
  have hpoint : StopsAt (· == '.') id digits := by
    apply stopsAt_takeWhile
    intro c hc
    rw [beq_iff_eq.1 hc]
    rfl
  have hletter : StopsAt (fun c => c == 'e' || c == 'E') id
      fun rest => digits rest + fraction (rest.drop (digits rest)) := by
    have hdigits : StopsAt (fun c => c == 'e' || c == 'E') id digits := by
      apply stopsAt_takeWhile
      intro c hc
      rcases Bool.or_eq_true_iff.1 hc with hc | hc <;> rw [beq_iff_eq.1 hc] <;> rfl
    apply hdigits.add
    rw [fraction_eq_leadLength]
    apply stopsAt_leadLength _ hdigits
    intro c hc
    rcases Bool.or_eq_true_iff.1 hc with hc | hc <;> rw [beq_iff_eq.1 hc] <;> rfl
  have hwhole := (ReadsLongest.takeWhile Char.isDigit).mul readsLongest_fraction hpoint
    fun c word hword => (cons_mem_one_add_oneOf_mul.1 hword).1
  exact hwhole.mul readsLongest_exponent hletter
    fun c word hword => (cons_mem_one_add_oneOf_mul.1 hword).1

/-- The hexadecimal digits are tried first, and the decimal literal takes over where there are none.
-/
theorem literal_eq_orElse (first : Char) :
    (fun rest => (hexTail? first rest).getD (decimalTail rest)) = fun rest =>
      let length := leadLength (fun mark => first == '0' && (mark == 'x' || mark == 'X'))
        (fun rest => (rest.takeWhile isHexDigit).length) rest
      if length = 0 then decimalTail rest else length := by
  funext rest
  simp only [hexTail?_eq_leadLength]
  split <;> rfl

theorem readsLongest_literal (first : Char) :
    ReadsLongest
      (oneOf (fun mark => first == '0' && (mark == 'x' || mark == 'X')) * manyOf isHexDigit +
        (oneOf Char.isDigit)∗ * (1 + fractions) * (1 + exponents))
      fun rest => (hexTail? first rest).getD (decimalTail rest) := by
  have hdigits := ReadsLongest.one_add_manyOf isHexDigit
  rw [literal_eq_orElse]
  apply (hdigits.leadLength (nil_notMem_manyOf _)).orElse readsLongest_decimalTail
  -- where hexadecimal digits are found the text starts with the `x`, and no decimal literal goes on
  -- so
  intro text hfound
  obtain ⟨mark, rest, rfl, hmark⟩ := exists_of_leadLength_pos hfound
  have hmark := (Bool.and_eq_true_iff.1 hmark).2
  rcases Bool.or_eq_true_iff.1 hmark with hmark | hmark <;> rw [beq_iff_eq.1 hmark] <;> rfl

/-- After its first digit a number goes on for as long as it can. -/
theorem readsLongest_tail (first : Char) : ReadsLongest (tails first) (tail first) :=
  (readsLongest_literal first).mul_kstar

end Number

/-! ## 4. Numbers among the tokens -/

namespace Token

variable {first : Char} {rest : List Char}

theorem classify_of_isDigit (h : first.isDigit = true) :
    classify first rest = (.number, Number.tail first rest) := by
  have hblank : ¬Text.isBlank first = true := by
    intro hblank
    rw [Text.isDigit_eq_false_of_isBlank hblank] at h
    cases h
  rw [classify, if_neg hblank, if_pos h]

/-- What a sign starts is neither blank nor a number, and no word either. -/
theorem fst_symbolExtent_mem (first : Char) (rest : List Char) :
    (symbolExtent first rest).1 ∈ [.string, .openString, .comment, .openComment, .boundVariable,
      .metadata, .delimiter, .punctuation, .operator, .unknown] := by
  rcases symbolExtent_cases first rest with hquote | hslash | hkind
  · rw [hquote]
    unfold stringExtent
    split <;> simp
  · rw [hslash]
    unfold slashExtent
    split
    · simp
    · split <;> simp
    · simp [operatorExtent]
  · simp only [List.mem_cons] at hkind ⊢
    tauto

/-- Only digits start numbers. -/
theorem isDigit_of_classify (h : (classify first rest).1 = .number) : first.isDigit = true := by
  unfold classify at h
  split at h
  · cases h
  split at h
  · next hdigit => exact hdigit
  split at h
  · rcases fst_wordExtent first rest with hkind | hkind <;> rw [hkind] at h <;> cases h
  have hkind := fst_symbolExtent_mem first rest
  rw [h] at hkind
  simp at hkind

end Token

/-- The part is a word of the language, and of the words of the language at the front of the text it
is the longest. -/
structure IsLongestWord (language : Language Char) (part text : List Char) : Prop where
  mem : part ∈ language
  starts : part <+: text
  longest : ∀ word ∈ language, word <+: text → word <+: part

/-- If the token starts with a digit it is a number, and the longest word of the grammar that stands
where the token starts. If it is a number it is a word of the grammar. -/
structure Token.ReadsNumber (token : Token) (text : List Char) : Prop where
  of_isDigit : token.text.head?.any Char.isDigit = true → token.kind = .number ∧
    ∃ before rest, text = before ++ rest ∧ Text.size before = token.start ∧
      IsLongestWord Number.grammar token.text rest
  mem_grammar : token.kind = .number → token.text ∈ Number.grammar

theorem Number.isLongestWord_tail {first : Char} (h : first.isDigit = true) (rest : List Char) :
    IsLongestWord grammar (first :: rest.take (tail first rest)) (first :: rest) := by
  have hreads := readsLongest_tail first
  constructor
  case mem => exact cons_mem_grammar.2 ⟨h, hreads.mem rest⟩
  case starts => exact List.cons_prefix_cons.2 ⟨rfl, List.take_prefix _ rest⟩
  case longest =>
    intro word hword hstarts
    cases word with
    | nil => exact absurd hword nil_notMem_grammar
    | cons c word =>
      obtain ⟨rfl, after, rfl⟩ := List.cons_prefix_cons.1 hstarts
      have hle := hreads.le word (cons_mem_grammar.1 hword).2 after
      rw [List.cons_prefix_cons]
      refine ⟨rfl, ?_⟩
      apply List.prefix_of_prefix_length_le (List.prefix_append word after) (List.take_prefix _ _)
      rw [List.length_take, List.length_append]
      omega

namespace TokenStream

variable {stream : TokenStream} {token : Token} {text : List Char}

theorem StandsIn.readsNumber_of_mem (h : stream.StandsIn text) (hmem : token ∈ stream.toList) :
    token.ReadsNumber text := by
  obtain ⟨before, first, behind, rfl, rfl⟩ := h.exists_classify_of_mem hmem
  constructor
  case of_isDigit =>
    intro hdigit
    rw [Token.classify_of_isDigit hdigit]
    exact ⟨rfl, before, first :: behind, rfl, rfl, Number.isLongestWord_tail hdigit behind⟩
  case mem_grammar =>
    intro hnumber
    have hdigit := Token.isDigit_of_classify hnumber
    rw [Token.classify_of_isDigit hdigit]
    exact (Number.isLongestWord_tail hdigit behind).mem

/-- Wherever a scan of a text takes a token that starts with a digit, it takes the longest word of
the grammar of numbers; and it takes no other words for numbers. -/
theorem toList_readsNumber (text : List Char) :
    (∀ token ∈ tokens text, token.ReadsNumber text) ∧
      ∀ offset, ∀ token ∈ (ofOffset text offset).toList, token.ReadsNumber text :=
  ⟨fun _ hmem => StandsIn.readsNumber_of_mem ⟨[], rfl, rfl⟩ hmem,
    fun offset _ hmem => (standsIn_ofOffset text offset).readsNumber_of_mem hmem⟩

example : (tokens "0xg 0x1e+5 1.5e-".toList).filterMap (fun token =>
      if token.kind = .number then some (String.ofList token.text) else none)
    = ["0xg", "0x1e", "5", "1.5e"] := by
  decide +kernel

end TokenStream

end DroolsInk
