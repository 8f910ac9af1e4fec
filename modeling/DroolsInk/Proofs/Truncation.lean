import DroolsInk.Proofs.Lookahead

/-!
# What a cut after a token hides

A token is settled by its own characters and a few after it. A text that is cut right after the
token shows none of those few, and the end of the text has to decide in their place. It decides the
same: the `+` after `1e` is not missed, because the number ends before it for want of a digit
anyway, and so is none of the other characters that were looked at and left out.

A reading is *truncatable* if a cut at or after the end of what is read changes nothing. Every
reading but that of a word is truncatable, and a word is as long as the cut does not leave the
spelling of a hyphenated keyword that runs on. A cut at the end of a token never leaves one: such a
spelling ends inside a word, and no token ends there.
-/

namespace DroolsInk

/-! ## 1. Truncatable readings -/

/-- What `read` finds within a part of a text it finds in the part alone; `length` is the number of
characters that belong to what was found. -/
def Truncatable {α : Type} (length : α → Nat) (read : List Char → α) : Prop :=
  ∀ seen after : List Char, length (read (seen ++ after)) ≤ seen.length →
    read seen = read (seen ++ after)

namespace Truncatable

variable {α β : Type} {length : α → Nat} {read : List Char → α}

theorem map (h : Truncatable length read) (whole : β → Nat) (make : α → β)
    (hwhole : ∀ found, length found ≤ whole (make found)) :
    Truncatable whole fun text => make (read text) := by
  intro seen after hle
  exact congrArg make (h seen after (Nat.le_trans (hwhole _) hle))

theorem add {first second : List Char → Nat} (hfirst : Truncatable id first)
    (hsecond : Truncatable id second) :
    Truncatable id fun text => first text + second (text.drop (first text)) := by
  intro seen after hle
  simp only [id] at hle ⊢
  have hsame : first seen = first (seen ++ after) :=
    hfirst seen after (Nat.le_trans (Nat.le_add_right _ _) hle)
  rw [← hsame] at hle ⊢
  generalize first seen = count at hle ⊢
  have hcount : count ≤ seen.length := Nat.le_trans (Nat.le_add_right _ _) hle
  rw [List.drop_append_of_le_length hcount] at hle ⊢
  rw [Nat.add_left_cancel_iff]
  apply hsecond
  rw [List.length_drop]
  exact Nat.le_sub_of_add_le' hle

end Truncatable

theorem truncatable_takeWhile (holds : Char → Bool) :
    Truncatable id fun text => (text.takeWhile holds).length := by
  intro seen after hle
  simp only [id, List.takeWhile_append] at hle ⊢
  split at hle
  · next hall =>
    rw [List.length_append] at hle
    rw [if_pos hall, List.length_append]
    omega
  · next hsome => rw [if_neg hsome]

/-- A choice by the first character is truncatable if a character that is left out decides like the
end of the text. -/
theorem truncatable_head? {α : Type} (length : α → Nat) (decide : Option Char → α)
    (h : ∀ first, length (decide (some first)) = 0 → decide (some first) = decide none) :
    Truncatable length fun text => decide text.head? := by
  intro seen after hle
  cases seen with
  | cons first rest => rfl
  | nil =>
    cases after with
    | nil => rfl
    | cons first rest => exact (h first (Nat.le_zero.1 hle)).symm

theorem truncatable_leadLength (isMark : Char → Bool) {count : List Char → Nat}
    (h : Truncatable id count) : Truncatable id (leadLength isMark count) := by
  intro seen after hle
  cases seen with
  | nil => exact (Nat.le_zero.1 hle).symm
  | cons mark rest =>
    simp only [List.cons_append, leadLength, id, List.length_cons] at hle ⊢
    by_cases hmark : isMark mark = true
    · have hsame : count rest = count (rest ++ after) := by
        apply h
        by_cases hpos : 0 < count (rest ++ after)
        · rw [if_pos ⟨hmark, hpos⟩] at hle
          simp only [id]
          omega
        · simp only [id]
          omega
      rw [hsame]
    · rw [if_neg fun h => hmark h.1, if_neg fun h => hmark h.1]

/-! ## 2. Numbers -/

namespace Number

theorem truncatable_digits : Truncatable id digits := truncatable_takeWhile Char.isDigit

theorem truncatable_signedDigits : Truncatable id signedDigits := by
  intro seen after hle
  simp only [id, signedDigits] at hle ⊢
  cases seen with
  | nil =>
    have hzero := Nat.le_zero.1 hle
    rw [List.nil_append] at hzero ⊢
    rw [hzero]
    rfl
  | cons first rest =>
    have hne : first :: rest ≠ [] := List.cons_ne_nil first rest
    have hlength := sign_le_length (first :: rest)
    rw [drop_sign_append hne, sign_append hne] at hle ⊢
    have hdigits : digits ((first :: rest).drop (sign (first :: rest)))
        = digits ((first :: rest).drop (sign (first :: rest)) ++ after) := by
      apply truncatable_digits
      rw [List.length_drop]
      simp only [id]
      split at hle <;> omega
    rw [← hdigits]

theorem truncatable_decimalTail : Truncatable id decimalTail := by
  have hfraction : Truncatable id fraction := by
    rw [fraction_eq_leadLength]
    exact truncatable_leadLength _ truncatable_digits
  have hexponent : Truncatable id exponent := by
    rw [exponent_eq_leadLength]
    exact truncatable_leadLength _ truncatable_signedDigits
  exact (truncatable_digits.add hfraction).add hexponent

theorem truncatable_hexTail? (first : Char) : Truncatable (·.getD 0) (hexTail? first) := by
  rw [hexTail?_eq_leadLength]
  have hlead := truncatable_leadLength (fun mark => first == '0' && (mark == 'x' || mark == 'X'))
    (truncatable_takeWhile isHexDigit)
  apply hlead.map (·.getD 0) fun length => if length = 0 then none else some length
  intro length
  exact Nat.le_of_eq (getD_hexTail? length).symm

theorem truncatable_literal (first : Char) :
    Truncatable id fun rest => (hexTail? first rest).getD (decimalTail rest) := by
  intro seen after hle
  simp only [id] at hle ⊢
  cases hfound : hexTail? first (seen ++ after) with
  | some length =>
    rw [hfound] at hle
    have hsame : hexTail? first seen = hexTail? first (seen ++ after) := by
      apply truncatable_hexTail?
      rw [hfound]
      exact hle
    rw [hsame, hfound]
    rfl
  | none =>
    rw [hfound] at hle
    have hsame : hexTail? first seen = hexTail? first (seen ++ after) := by
      apply truncatable_hexTail?
      rw [hfound]
      exact Nat.zero_le _
    rw [hsame, hfound]
    exact truncatable_decimalTail seen after hle

theorem truncatable_tail (first : Char) : Truncatable id (tail first) :=
  (truncatable_literal first).add (truncatable_takeWhile Word.isPart)

end Number

/-! ## 3. Literals, comments and operators -/

namespace Token

theorem truncatable_enclosed {findEnd : List Char → Option Nat} (h : FindsWithin findEnd) :
    Truncatable Prod.snd (enclosed findEnd) := by
  intro seen after hle
  unfold enclosed at hle ⊢
  cases hend : findEnd (seen ++ after) with
  | none =>
    -- what is never closed takes everything, so that nothing stands after the cut
    rw [hend] at hle
    simp only [List.length_append] at hle
    have hnil : after = [] := List.eq_nil_of_length_eq_zero (by omega)
    subst hnil
    rw [List.append_nil] at hend ⊢
    rw [hend]
  | some length =>
    rw [hend] at hle
    rw [(h seen after length).1 ⟨hend, hle⟩]

theorem truncatable_stringExtent (mark : Char) : Truncatable Prod.snd (stringExtent mark) := by
  rw [stringExtent_eq]
  exact (truncatable_enclosed (findsWithin_stringEnd? mark)).map Prod.snd
    (fun found => (if found.1 then Kind.string else .openString, found.2))
    fun found => Nat.le_refl found.2

theorem truncatable_lineLength : Truncatable id lineLength := truncatable_takeWhile (!endsLine ·)

theorem truncatable_operatorExtent (first : Char) :
    Truncatable Prod.snd (operatorExtent first) := by
  apply truncatable_head? Prod.snd fun second? =>
    (Kind.operator, if second?.any fun second => (first, second) ∈ operatorPairs then 1 else 0)
  intro second hzero
  simp only at hzero
  split at hzero
  · cases hzero
  · next hsingle => rw [if_neg hsingle]; rfl

theorem truncatable_sigilExtent (kind : Kind) : Truncatable Prod.snd (sigilExtent kind) := by
  have hrun : Truncatable id Word.run := truncatable_takeWhile Word.isPart
  exact hrun.map Prod.snd (fun length => (if length = 0 then .unknown else kind, length))
    fun length => Nat.le_refl length

theorem truncatable_slashExtent : Truncatable Prod.snd slashExtent := by
  intro seen after hle
  cases seen with
  | nil =>
    -- what follows the slash is left out, so it starts no comment
    cases after with
    | nil => rfl
    | cons next rest =>
      have hline : next ≠ '/' := by
        rintro rfl
        rw [List.nil_append, slashExtent.eq_1] at hle
        simp at hle
      have hblock : next ≠ '*' := by
        rintro rfl
        rw [List.nil_append, slashExtent_cons_star] at hle
        simp at hle
      rw [List.nil_append, slashExtent_of_ne hline hblock] at hle ⊢
      exact truncatable_operatorExtent '/' [] (next :: rest) hle
  | cons next rest =>
    rw [List.cons_append] at hle ⊢
    by_cases hline : next = '/'
    · subst hline
      rw [slashExtent.eq_1] at hle
      have hsame : lineLength rest = lineLength (rest ++ after) := by
        apply truncatable_lineLength
        simp only [id, List.length_cons] at hle ⊢
        omega
      rw [slashExtent.eq_1, slashExtent.eq_1, hsame]
    · by_cases hblock : next = '*'
      · subst hblock
        rw [slashExtent_cons_star] at hle
        have hsame : enclosed (commentEnd? 0) rest = enclosed (commentEnd? 0) (rest ++ after) := by
          apply truncatable_enclosed findsWithin_commentEnd?
          simp only [List.length_cons] at hle
          omega
        rw [slashExtent_cons_star, slashExtent_cons_star, hsame]
      · rw [slashExtent_of_ne hline hblock, slashExtent_of_ne hline hblock]
        rfl

theorem truncatable_symbolExtent (first : Char) : Truncatable Prod.snd (symbolExtent first) := by
  have hnothing : ∀ kind : Kind, Truncatable Prod.snd fun _ : List Char => (kind, 0) :=
    fun _ _ _ _ => rfl
  rw [show symbolExtent first = _ from funext (symbolExtent_eq first)]
  split
  · exact truncatable_stringExtent first
  split
  · exact truncatable_slashExtent
  split
  · exact truncatable_lineLength.map Prod.snd (Kind.comment, ·) fun length => Nat.le_refl length
  split
  · exact truncatable_sigilExtent .boundVariable
  split
  · exact truncatable_sigilExtent .metadata
  split
  · exact hnothing .delimiter
  split
  · exact hnothing .punctuation
  split
  · exact truncatable_operatorExtent first
  · exact hnothing .unknown

/-! ## 4. Words -/

variable {first : Char} {seen after rest : List Char}

theorem wordExtent_eq_append (hle : (wordExtent first (seen ++ after)).2 ≤ seen.length)
    (hrunsOn : ¬Word.RunsOn (first :: seen) after) :
    wordExtent first seen = wordExtent first (seen ++ after) := by
  unfold wordExtent at hle ⊢
  cases hfound : Word.hyphenatedKeyword? (first :: (seen ++ after)) with
  | some keyword =>
    rw [hfound] at hle
    simp only at hle
    have hinside : keyword.length ≤ (first :: seen).length := by
      rw [List.length_cons]
      omega
    rw [(Word.hyphenatedKeyword?_append_iff_of_le hinside hrunsOn).1 hfound]
  | none =>
    rw [hfound] at hle
    simp only at hle
    have hrun : Word.run seen = Word.run (seen ++ after) :=
      truncatable_takeWhile Word.isPart seen after hle
    have hnone : Word.hyphenatedKeyword? (first :: seen) = none := by
      rw [Option.eq_none_iff_forall_not_mem]
      intro keyword hkeyword
      obtain ⟨-, hstarts, -⟩ := Word.hyphenatedKeyword?_eq_some_iff.1 hkeyword
      have hwhole :=
        (Word.hyphenatedKeyword?_append_iff_of_le hstarts.length_le hrunsOn).2 hkeyword
      rw [List.cons_append, hfound] at hwhole
      cases hwhole
    rw [hnone]
    simp only [hrun, List.take_append_of_le_length hle]

theorem classify_of_isOpening (h : Word.isOpening first = true) (rest : List Char) :
    classify first rest = wordExtent first rest := by
  simp only [Word.isOpening, Bool.and_eq_true, Bool.not_eq_true'] at h
  unfold classify
  rw [h.1.1, h.1.2, h.2]
  rfl

/-- A part that holds the first token of the text is classified like the text, unless the part is
the spelling of a keyword that runs on. -/
theorem classify_eq_append (hle : (classify first (seen ++ after)).2 ≤ seen.length)
    (hrunsOn : ¬Word.RunsOn (first :: seen) after) :
    classify first seen = classify first (seen ++ after) := by
  unfold classify at hle ⊢
  split
  · next hblank =>
    rw [if_pos hblank] at hle
    exact (truncatable_takeWhile Text.isBlank).map Prod.snd (Kind.blank, ·)
      (fun length => Nat.le_refl length) seen after hle
  · next hblank =>
    rw [if_neg hblank] at hle
    split
    · next hdigit =>
      rw [if_pos hdigit] at hle
      exact (Number.truncatable_tail first).map Prod.snd (Kind.number, ·)
        (fun length => Nat.le_refl length) seen after hle
    · next hdigit =>
      rw [if_neg hdigit] at hle
      split
      · next hstart =>
        rw [if_pos hstart] at hle
        exact wordExtent_eq_append hle hrunsOn
      · next hstart =>
        rw [if_neg hstart] at hle
        exact truncatable_symbolExtent first seen after hle

/-- Where the spelling of a keyword runs on, the token is the word before its first hyphen. -/
theorem classify_of_runsOn (h : Word.RunsOn (first :: seen) after) :
    classify first (seen ++ after) = wordExtent first (seen ++ after) ∧
      (classify first (seen ++ after)).2 < seen.length := by
  have hopening : Word.isOpening first = true :=
    Word.head_isOpening_of_mem _ h.1
  have hextent := classify_of_isOpening hopening (seen ++ after)
  refine ⟨hextent, ?_⟩
  have hnone := Word.hyphenatedKeyword?_of_runsOn h
  have hrun := Word.run_eq_of_prefix h.1 (List.prefix_append (first :: seen) after)
  have hlt := Word.run_lt_length_of_mem _ h.1
  rw [List.cons_append] at hnone hrun
  rw [← hrun, Word.run_cons (Word.isPart_of_isOpening hopening), List.length_cons] at hlt
  rw [hextent, wordExtent, hnone]
  simp only
  omega

/-! ## 5. No token ends inside a word that started with a letter -/

theorem goesOn_drop_run (text : List Char) : Word.goesOn (text.drop (Word.run text)) = false := by
  have hdrop : text.drop (Word.run text) = text.dropWhile Word.isPart := by
    have hleft : (text.takeWhile Word.isPart ++ text.dropWhile Word.isPart).drop (Word.run text)
        = text.dropWhile Word.isPart := List.drop_left
    rwa [List.takeWhile_append_dropWhile] at hleft
  have hhead := List.head?_dropWhile_not Word.isPart text
  rw [hdrop, Word.goesOn]
  cases hcase : (text.dropWhile Word.isPart).head? with
  | none => rfl
  | some c =>
    rw [hcase] at hhead
    exact hhead

theorem goesOn_drop_wordExtent (first : Char) (rest : List Char) :
    Word.goesOn (rest.drop (wordExtent first rest).2) = false := by
  unfold wordExtent
  cases hfound : Word.hyphenatedKeyword? (first :: rest) with
  | none => exact goesOn_drop_run rest
  | some keyword =>
    obtain ⟨hmem, -, hends⟩ := Word.hyphenatedKeyword?_eq_some_iff.1 hfound
    have hpos := Nat.lt_of_le_of_lt (Nat.zero_le _) (Word.run_lt_length_of_mem keyword hmem)
    rw [show keyword.length = keyword.length - 1 + 1 by omega, List.drop_succ_cons] at hends
    exact hends

/-- A token that is the end of the spelling of a hyphenated keyword is one of its words, and no word
character follows it. -/
theorem goesOn_of_suffix {keyword : List Char} (hmem : keyword ∈ Word.hyphenatedKeywords)
    (hsuffix : first :: rest.take (classify first rest).2 <:+ keyword) :
    Word.goesOn (rest.drop (classify first rest).2) = false := by
  have hletter := List.all_eq_true.1 (Word.all_isOpening_of_mem keyword hmem) first
    (hsuffix.subset List.mem_cons_self)
  rw [Bool.or_eq_true, beq_iff_eq] at hletter
  rcases hletter with rfl | hopening
  · -- an operator is no end of the spelling, which ends in a letter
    exfalso
    have hextent : classify '-' rest = operatorExtent '-' rest := by
      rw [show classify '-' rest = symbolExtent '-' rest from rfl, symbolExtent_eq]
      rfl
    rw [hextent] at hsuffix
    obtain ⟨front, rfl⟩ := hsuffix
    have hlast : ∀ c, ('-' :: rest.take (operatorExtent '-' rest).2).getLast? = some c →
        Word.isOpening c = true := by
      intro c hc
      have hopening := Word.getLast_isOpening_of_mem _ hmem
      rw [List.getLast?_append, hc] at hopening
      exact hopening
    have hdash : Word.isOpening '-' = false := by decide +kernel
    cases rest with
    | nil => exact absurd (hlast '-' rfl) (by rw [hdash]; decide)
    | cons second rest =>
      by_cases hpair : ('-', second) ∈ operatorPairs
      · have htake : (second :: rest).take (operatorExtent '-' (second :: rest)).2 = [second] := by
          simp [operatorExtent, hpair]
        rw [htake] at hlast
        have hnone : ∀ pair ∈ operatorPairs, Word.isOpening pair.2 = false := by decide +kernel
        exact absurd (hlast second rfl) (by rw [hnone _ hpair]; decide)
      · have htake : (second :: rest).take (operatorExtent '-' (second :: rest)).2 = [] := by
          simp [operatorExtent, hpair]
        rw [htake] at hlast
        exact absurd (hlast '-' rfl) (by rw [hdash]; decide)
  · rw [classify_of_isOpening hopening]
    exact goesOn_drop_wordExtent first rest

end Token

end DroolsInk
