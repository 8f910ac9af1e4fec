import DroolsInk.Buffer.Relex
import DroolsInk.Proofs.Literals
import DroolsInk.Proofs.Numbers
import DroolsInk.Proofs.Tiling
import DroolsInk.Proofs.Words

/-!
# How far a token looks ahead

Something that is read off the start of a text is *settled* by a number of bytes if those bytes
after it decide it: once they are there, no change of the text behind them changes what is read.
Reading one thing after another is settled by what settles each of them, and so a bound for the
pieces of a number or a word gives a bound for the whole.

Everything but a word is settled by three bytes. A word is settled by eleven, the ten bytes of the
longest rest of a hyphenated keyword and one byte of the character after it, and by no fewer. The
scanner relies on `lookahead` bytes, which is more than it needs.
-/

namespace DroolsInk

/-! ## 1. Settled readings -/

/-- What `read` finds at the start of a text does not depend on what stands more than `bound` bytes
after it; `length` is the number of characters that belong to what was found. -/
def Settled {α : Type} (bound : Nat) (length : α → Nat) (read : List Char → α) : Prop :=
  ∀ seen after other : List Char,
    bound ≤ Text.size (seen.drop (length (read (seen ++ after)))) →
      read (seen ++ other) = read (seen ++ after)

namespace Text

theorem lt_length_of_size_drop_pos {seen : List Char} {count : Nat}
    (h : 0 < size (seen.drop count)) : count < seen.length := by
  rcases Nat.lt_or_ge count seen.length with hlt | hge
  · exact hlt
  · rw [List.drop_eq_nil_of_le hge] at h
    exact absurd h (Nat.lt_irrefl 0)

theorem size_drop_le (text : List Char) {few many : Nat} (h : few ≤ many) :
    size (text.drop many) ≤ size (text.drop few) := by
  have hsplit := List.take_append_drop (many - few) (text.drop few)
  rw [List.drop_drop, Nat.add_sub_cancel' h] at hsplit
  have hsize := congrArg size hsplit
  rw [size_append] at hsize
  omega

/-- If a part of the text that starts inside `seen` leaves `bound` bytes of it, it ends in `seen`.
-/
theorem le_size_drop_of_size_take {seen after : List Char} {count bound : Nat} (hpos : 0 < bound)
    (h : size ((seen ++ after).take count) + bound ≤ size seen) :
    count < seen.length ∧ bound ≤ size (seen.drop count) := by
  have hlt : count < seen.length := by
    rcases Nat.lt_or_ge count seen.length with hlt | hge
    · exact hlt
    · rw [List.take_append, List.take_of_length_le hge, size_append] at h
      omega
  rw [List.take_append_of_le_length (Nat.le_of_lt hlt)] at h
  have hsize := congrArg size (List.take_append_drop count seen)
  rw [size_append] at hsize
  exact ⟨hlt, by omega⟩

end Text

namespace Settled

variable {α β : Type} {bound : Nat} {length : α → Nat} {read : List Char → α}

theorem mono (h : Settled bound length read) {more : Nat} (hle : bound ≤ more) :
    Settled more length read := by
  intro seen after other hsize
  exact h seen after other (Nat.le_trans hle hsize)

/-- What is made of a settled reading is settled, if no fewer characters belong to it. -/
theorem map (h : Settled bound length read) (whole : β → Nat) (make : α → β)
    (hwhole : ∀ found, length found ≤ whole (make found)) :
    Settled bound whole fun text => make (read text) := by
  intro seen after other hbound
  have hle := Text.size_drop_le seen (hwhole (read (seen ++ after)))
  exact congrArg make (h seen after other (Nat.le_trans hbound hle))

theorem add {first second : List Char → Nat} (hpos : 0 < bound) (hfirst : Settled bound id first)
    (hsecond : Settled bound id second) :
    Settled bound id fun text => first text + second (text.drop (first text)) := by
  intro seen after other hbound
  simp only [id] at hbound ⊢
  have hle := Text.size_drop_le seen
    (Nat.le_add_right (first (seen ++ after))
      (second ((seen ++ after).drop (first (seen ++ after)))))
  have hsame : first (seen ++ other) = first (seen ++ after) :=
    hfirst seen after other (Nat.le_trans hbound hle)
  rw [hsame]
  -- the first length ends inside `seen`, so the second reading starts there too
  generalize first (seen ++ after) = count at hbound hle ⊢
  have hlt : count < seen.length := Text.lt_length_of_size_drop_pos (by omega)
  rw [List.drop_append_of_le_length (Nat.le_of_lt hlt)] at hbound ⊢
  rw [List.drop_append_of_le_length (Nat.le_of_lt hlt), Nat.add_left_cancel_iff]
  rw [← List.drop_drop] at hbound
  exact hsecond (seen.drop count) after other hbound

end Settled

theorem settled_takeWhile (holds : Char → Bool) :
    Settled 1 id fun text => (text.takeWhile holds).length := by
  intro seen after other hbound
  have hlt := Text.lt_length_of_size_drop_pos hbound
  simp only [id, List.takeWhile_append] at hlt ⊢
  split at hlt
  · rw [List.length_append] at hlt
    omega
  · next hne => rw [if_neg hne, if_neg hne]

theorem settled_leadLength {isMark : Char → Bool} {count : List Char → Nat} {bound : Nat}
    (hone : ∀ mark, isMark mark = true → mark.utf8Size = 1) (h : Settled bound id count) :
    Settled (bound + 1) id (leadLength isMark count) := by
  intro seen after other hbound
  cases seen with
  | nil => simp at hbound
  | cons mark rest =>
    simp only [List.cons_append, leadLength, id] at hbound ⊢
    by_cases hmark : isMark mark = true
    · have hsame : count (rest ++ other) = count (rest ++ after) := by
        apply h
        by_cases hpos : 0 < count (rest ++ after)
        · rw [if_pos ⟨hmark, hpos⟩, Nat.add_comm 1, List.drop_succ_cons] at hbound
          exact Nat.le_of_succ_le hbound
        · -- the mark leads in nothing, and it may be the first of the bytes seen after the token
          rw [if_neg fun h => hpos h.2, List.drop_zero, Text.size_cons, hone mark hmark] at hbound
          simp only [id, Nat.eq_zero_of_not_pos hpos, List.drop_zero]
          omega
      rw [hsame]
    · rw [if_neg fun h => hmark h.1, if_neg fun h => hmark h.1]

theorem settled_head? {α : Type} (length : α → Nat) (decide : Option Char → α) :
    Settled 1 length fun text => decide text.head? := by
  intro seen after other hbound
  have hlt := Text.lt_length_of_size_drop_pos hbound
  cases seen with
  | nil => exact absurd hlt (Nat.not_lt_zero _)
  | cons first rest => rfl

/-! ## 2. Numbers

The digits of a fraction or an exponent are settled by the character after them, but a point or an
exponent letter that no digit follows does not belong to the number, and neither does the sign after
the letter. So up to three bytes after the number have to be seen. -/

namespace Number

theorem settled_digits : Settled 1 id digits := settled_takeWhile Char.isDigit

theorem settled_signedDigits : Settled 2 id signedDigits := by
  intro seen after other hbound
  have hwhole := Nat.le_trans hbound (Text.size_drop_le seen (Nat.zero_le _))
  have hne : seen ≠ [] := by
    rintro rfl
    exact absurd hwhole (by decide)
  simp only [id, signedDigits] at hbound ⊢
  -- the sign is settled first, and the digits are read after it
  rw [drop_sign_append hne, sign_append hne] at hbound
  rw [drop_sign_append hne, drop_sign_append hne, sign_append hne, sign_append hne]
  have hdigits : digits (seen.drop (sign seen) ++ other)
      = digits (seen.drop (sign seen) ++ after) := by
    apply settled_digits
    have hleft := size_drop_sign seen
    by_cases hzero : digits (seen.drop (sign seen) ++ after) = 0
    · rw [List.drop_zero] at hwhole
      simp only [id, hzero, List.drop_zero]
      omega
    · rw [if_neg hzero] at hbound
      simp only [id, List.drop_drop]
      exact Nat.le_trans (by decide) hbound
  rw [hdigits]

theorem settled_decimalTail : Settled 3 id decimalTail := by
  have hfraction : Settled 2 id fraction := by
    rw [fraction_eq_leadLength]
    apply settled_leadLength _ settled_digits
    simp only [beq_iff_eq, forall_eq]
    rfl
  have hexponent : Settled 3 id exponent := by
    rw [exponent_eq_leadLength]
    apply settled_leadLength _ settled_signedDigits
    simp only [Bool.or_eq_true, beq_iff_eq]
    rintro mark (rfl | rfl) <;> rfl
  have hdigits := settled_digits.mono (show 1 ≤ 3 by decide)
  exact (hdigits.add (by decide) (hfraction.mono (by decide))).add (by decide) hexponent

theorem settled_hexTail? (first : Char) : Settled 2 (·.getD 0) (hexTail? first) := by
  rw [hexTail?_eq_leadLength]
  have hlead : Settled 2 id (leadLength (fun mark => first == '0' && (mark == 'x' || mark == 'X'))
      fun rest => (rest.takeWhile isHexDigit).length) := by
    apply settled_leadLength _ (settled_takeWhile isHexDigit)
    simp only [Bool.and_eq_true, Bool.or_eq_true, beq_iff_eq]
    rintro mark ⟨-, rfl | rfl⟩ <;> rfl
  apply hlead.map (·.getD 0) fun length => if length = 0 then none else some length
  intro length
  exact Nat.le_of_eq (getD_hexTail? length).symm

theorem settled_literal (first : Char) :
    Settled 3 id fun rest => (hexTail? first rest).getD (decimalTail rest) := by
  intro seen after other hbound
  have hhex : hexTail? first (seen ++ other) = hexTail? first (seen ++ after) := by
    apply settled_hexTail? first seen after other
    have hle : (hexTail? first (seen ++ after)).getD 0
        ≤ (hexTail? first (seen ++ after)).getD (decimalTail (seen ++ after)) := by
      cases hexTail? first (seen ++ after) with
      | none => exact Nat.zero_le _
      | some length => exact Nat.le_refl _
    have hdrop := Text.size_drop_le seen hle
    simp only [id] at hbound ⊢
    omega
  simp only [hhex]
  cases hfound : hexTail? first (seen ++ after) with
  | some length => rfl
  | none =>
    simp only [hfound] at hbound
    exact settled_decimalTail seen after other hbound

theorem settled_tail (first : Char) : Settled 3 id (tail first) := by
  have hrun : Settled 3 id Word.run := (settled_takeWhile Word.isPart).mono (by decide)
  exact (settled_literal first).add (by decide) hrun

end Number

/-! ## 3. Literals, comments and operators

What is closed is closed by characters of its own, and what is open takes everything that follows,
so that nothing of the text is left to be changed. One more character decides where a line comment
or a name ends and whether a sign belongs to an operator. -/

namespace Token

theorem settled_enclosed {findEnd : List Char → Option Nat} (h : FindsWithin findEnd) :
    Settled 1 Prod.snd (enclosed findEnd) := by
  intro seen after other hbound
  have hlt := Text.lt_length_of_size_drop_pos hbound
  unfold enclosed at hlt ⊢
  cases hend : findEnd (seen ++ after) with
  | none =>
    rw [hend] at hlt
    simp only [List.length_append] at hlt
    omega
  | some length =>
    rw [hend] at hlt
    have hseen := (h seen after length).1 ⟨hend, Nat.le_of_lt hlt⟩
    rw [((h seen other length).2 hseen).1]

theorem settled_stringExtent (mark : Char) : Settled 1 Prod.snd (stringExtent mark) := by
  rw [stringExtent_eq]
  exact (settled_enclosed (findsWithin_stringEnd? mark)).map Prod.snd
    (fun found => (if found.1 then Kind.string else .openString, found.2))
    fun found => Nat.le_refl found.2

theorem settled_lineLength : Settled 1 id lineLength := settled_takeWhile (!endsLine ·)

theorem settled_operatorExtent (first : Char) : Settled 1 Prod.snd (operatorExtent first) :=
  settled_head? Prod.snd fun second? =>
    (Kind.operator, if second?.any fun second => (first, second) ∈ operatorPairs then 1 else 0)

theorem settled_sigilExtent (kind : Kind) : Settled 1 Prod.snd (sigilExtent kind) := by
  have hrun : Settled 1 id Word.run := settled_takeWhile Word.isPart
  exact hrun.map Prod.snd (fun length => (if length = 0 then .unknown else kind, length))
    fun length => Nat.le_refl length

theorem slashExtent_of_ne {next : Char} (hline : next ≠ '/') (hblock : next ≠ '*')
    (rest : List Char) : slashExtent (next :: rest) = operatorExtent '/' (next :: rest) := by
  apply slashExtent.eq_3
  · intro tail h
    exact hline (List.cons.inj h).1
  · intro tail h
    exact hblock (List.cons.inj h).1

theorem settled_slashExtent : Settled 1 Prod.snd slashExtent := by
  intro seen after other hbound
  cases seen with
  | nil => simp at hbound
  | cons next rest =>
    rw [List.cons_append] at hbound
    rw [List.cons_append, List.cons_append]
    by_cases hline : next = '/'
    · subst hline
      rw [slashExtent.eq_1] at hbound
      simp only [Nat.add_comm 1, List.drop_succ_cons] at hbound
      have hsame := settled_lineLength rest after other hbound
      rw [slashExtent.eq_1, slashExtent.eq_1, hsame]
    · by_cases hblock : next = '*'
      · subst hblock
        rw [slashExtent_cons_star] at hbound
        simp only [Nat.add_comm 1, List.drop_succ_cons] at hbound
        have hsame := settled_enclosed findsWithin_commentEnd? rest after other hbound
        rw [slashExtent_cons_star, slashExtent_cons_star, hsame]
      · rw [slashExtent_of_ne hline hblock, slashExtent_of_ne hline hblock]
        rfl

theorem symbolExtent_eq (first : Char) (rest : List Char) :
    symbolExtent first rest =
      if first = '\"' ∨ first = '\'' then stringExtent first rest
      else if first = '/' then slashExtent rest
      else if first = '#' then (.comment, lineLength rest)
      else if first = '$' then sigilExtent .boundVariable rest
      else if first = '@' then sigilExtent .metadata rest
      else if first ∈ ['\x7b', '\x7d', '(', ')', '[', ']'] then (.delimiter, 0)
      else if first ∈ [',', ';'] then (.punctuation, 0)
      else if first ∈ operatorChars then operatorExtent first rest
      else (.unknown, 0) := by
  unfold symbolExtent
  split <;> simp_all

/-- What a sign starts is a literal, or what a slash starts, or of one of seven kinds. -/
theorem symbolExtent_cases (first : Char) (rest : List Char) :
    symbolExtent first rest = stringExtent first rest ∨ symbolExtent first rest = slashExtent rest ∨
      (symbolExtent first rest).1 ∈
        [.comment, .boundVariable, .metadata, .delimiter, .punctuation, .operator, .unknown] := by
  have hsigil : ∀ kind,
      (sigilExtent kind rest).1 = .unknown ∨ (sigilExtent kind rest).1 = kind := by
    intro kind
    unfold sigilExtent
    split
    · exact Or.inl rfl
    · exact Or.inr rfl
  rw [symbolExtent_eq]
  split
  · exact Or.inl rfl
  split
  · exact Or.inr (Or.inl rfl)
  refine Or.inr (Or.inr ?_)
  split
  · simp
  split
  · rcases hsigil .boundVariable with hkind | hkind <;> simp [hkind]
  split
  · rcases hsigil .metadata with hkind | hkind <;> simp [hkind]
  split
  · simp
  split
  · simp
  split
  · simp [operatorExtent]
  · simp

theorem settled_symbolExtent (first : Char) : Settled 1 Prod.snd (symbolExtent first) := by
  have hnothing : ∀ kind : Kind, Settled 1 Prod.snd fun _ : List Char => (kind, 0) :=
    fun _ _ _ _ _ => rfl
  rw [show symbolExtent first = _ from funext (symbolExtent_eq first)]
  split
  · exact settled_stringExtent first
  split
  · exact settled_slashExtent
  split
  · exact settled_lineLength.map Prod.snd (Kind.comment, ·) fun length => Nat.le_refl length
  split
  · exact settled_sigilExtent .boundVariable
  split
  · exact settled_sigilExtent .metadata
  split
  · exact hnothing .delimiter
  split
  · exact hnothing .punctuation
  split
  · exact settled_operatorExtent first
  · exact hnothing .unknown

/-! ## 4. Words

Where a word ends is settled by the character after it, but whether it is the first part of a
hyphenated keyword is not. If it is one, the rest of the keyword and the character after that one
have to be seen. If it is none, no text behind the eleventh byte can make it one: such a keyword
would have more than ten bytes after the word. -/

theorem settled_wordExtent {first : Char} (hfirst : Word.isPart first = true) :
    Settled 11 Prod.snd (wordExtent first) := by
  intro seen after other hbound
  have hlt := Text.lt_length_of_size_drop_pos (Nat.lt_of_lt_of_le (by decide) hbound)
  unfold wordExtent at hbound hlt ⊢
  cases hfound : Word.hyphenatedKeyword? (first :: (seen ++ after)) with
  | some keyword =>
    simp only [hfound] at hlt
    have hinside : keyword.length < (first :: seen).length := by
      rw [List.length_cons]
      omega
    have hseen := (Word.hyphenatedKeyword?_append_eq_some_iff after hinside).1 hfound
    have hother := (Word.hyphenatedKeyword?_append_eq_some_iff other hinside).2 hseen
    rw [List.cons_append] at hother
    rw [hother]
  | none =>
    simp only [hfound] at hbound hlt
    have hrun : Word.run (seen ++ other) = Word.run (seen ++ after) :=
      settled_takeWhile Word.isPart seen after other (Nat.le_trans (by decide) hbound)
    have hnone : Word.hyphenatedKeyword? (first :: (seen ++ other)) = none := by
      rw [Option.eq_none_iff_forall_not_mem]
      intro keyword hkeyword
      obtain ⟨hmem, hstarts, -⟩ := Word.hyphenatedKeyword?_eq_some_iff.1 hkeyword
      have hword : Word.run keyword = Word.run (seen ++ after) + 1 := by
        rw [← Word.run_eq_of_prefix hmem hstarts, Word.run_cons hfirst, hrun]
      have hinside : keyword.length < (first :: seen).length := by
        rcases Nat.lt_or_ge keyword.length (first :: seen).length with hlt | hge
        · exact hlt
        · -- all that has been seen belongs to the keyword, and that is too much
          obtain ⟨tail, htail⟩ : first :: seen <+: keyword :=
            List.prefix_of_prefix_length_le (List.prefix_append (first :: seen) other) hstarts hge
          have hten := Word.size_drop_run_le_of_mem keyword hmem
          rw [hword, ← htail, List.cons_append, List.drop_succ_cons,
            List.drop_append_of_le_length (Nat.le_of_lt hlt), Text.size_append] at hten
          omega
      have hseen := (Word.hyphenatedKeyword?_append_eq_some_iff other hinside).1 hkeyword
      have hafter := (Word.hyphenatedKeyword?_append_eq_some_iff after hinside).2 hseen
      rw [List.cons_append, hfound] at hafter
      cases hafter
    have htake : (seen ++ other).take (Word.run (seen ++ after))
        = (seen ++ after).take (Word.run (seen ++ after)) := by
      rw [List.take_append_of_le_length (Nat.le_of_lt hlt),
        List.take_append_of_le_length (Nat.le_of_lt hlt)]
    rw [hnone]
    simp only [hrun, htake]

theorem settled_classify (first : Char) : Settled 11 Prod.snd (classify first) := by
  rw [show classify first = fun rest => classify first rest from rfl]
  unfold classify
  split
  · exact ((settled_takeWhile Text.isBlank).map Prod.snd (Kind.blank, ·)
      fun length => Nat.le_refl length).mono (by decide)
  split
  · exact ((Number.settled_tail first).map Prod.snd (Kind.number, ·)
      fun length => Nat.le_refl length).mono (by decide)
  split
  · next hstart => exact settled_wordExtent (Word.isPart_of_isStart hstart)
  · exact (settled_symbolExtent first).mono (by decide)

end Token

/-! ## 5. Streams

A step of a stream: a token that ends eleven bytes before the end of what has been seen is the next
token whatever follows, and the stream after it has seen the rest of what has been seen. A run of
steps keeps to the same tokens as long as all of them end that early. -/

namespace TokenStream

theorem next?_append_of_le {seen after : List Char} {offset : Nat} {token : Token}
    {rest : TokenStream}
    (hnext : (TokenStream.mk offset (seen ++ after)).next? = some (token, rest))
    (hstop : token.stop + 11 ≤ offset + Text.size seen) (other : List Char) :
    ∃ left, seen = token.text ++ left ∧ rest = ⟨token.stop, left ++ after⟩ ∧
      (TokenStream.mk offset (seen ++ other)).next?
        = some (token, ⟨token.stop, left ++ other⟩) := by
  cases seen with
  | nil =>
    have hstart := (offset_of_next? hnext).1
    have hle : token.start ≤ token.stop := Nat.le_add_right _ _
    simp only [Text.size_nil] at hstart hstop
    omega
  | cons first seen =>
    simp only [List.cons_append, next?, Option.some.injEq, Prod.mk.injEq] at hnext
    obtain ⟨rfl, rfl⟩ := hnext
    simp only [Token.stop, Text.size_cons] at hstop
    have htaken : Text.size ((seen ++ after).take (Token.classify first (seen ++ after)).2) + 11
        ≤ Text.size seen := by
      omega
    obtain ⟨hlt, hbound⟩ := Text.le_size_drop_of_size_take (by decide) htaken
    have hsame := Token.settled_classify first seen after other hbound
    refine ⟨seen.drop (Token.classify first (seen ++ after)).2, ?_, ?_, ?_⟩
    · rw [List.take_append_of_le_length (Nat.le_of_lt hlt), List.cons_append,
        List.take_append_drop]
    · rw [List.drop_append_of_le_length (Nat.le_of_lt hlt)]
    · simp only [List.cons_append, next?, hsame]
      rw [List.take_append_of_le_length (Nat.le_of_lt hlt),
        List.take_append_of_le_length (Nat.le_of_lt hlt),
        List.drop_append_of_le_length (Nat.le_of_lt hlt)]

theorem toList_append_of_le {after : List Char} {settled later : List Token} :
    ∀ {seen : List Char} {offset : Nat},
      (TokenStream.mk offset (seen ++ after)).toList = settled ++ later →
      (∀ token ∈ settled, token.stop + 11 ≤ offset + Text.size seen) → ∀ other : List Char,
      ∃ passed left, seen = passed ++ left ∧ passed = settled.flatMap Token.text ∧
        (TokenStream.mk (offset + Text.size passed) (left ++ after)).toList = later ∧
        (TokenStream.mk offset (seen ++ other)).toList
          = settled ++ (TokenStream.mk (offset + Text.size passed) (left ++ other)).toList := by
  induction settled with
  | nil =>
    intro seen offset hlist _ other
    exact ⟨[], seen, rfl, rfl, hlist, rfl⟩
  | cons token settled ih =>
    intro seen offset hlist hsettled other
    have hnext : (TokenStream.mk offset (seen ++ after)).next?
        = some (token, (TokenStream.mk offset (seen ++ after)).skip) := by
      rw [next?_eq_head?, hlist]
      rfl
    obtain ⟨left, hseen, hrest, hother⟩ :=
      next?_append_of_le hnext (hsettled token List.mem_cons_self) other
    have hstart : token.start = offset := (offset_of_next? hnext).1
    have hsize : Text.size seen = Text.size token.text + Text.size left := by
      rw [hseen, Text.size_append]
    have hstop : token.stop = offset + Text.size token.text := by rw [Token.stop, hstart]
    have htail : (TokenStream.mk token.stop (left ++ after)).toList = settled ++ later := by
      rw [← hrest, toList_skip, hlist]
      rfl
    obtain ⟨passed, left', hleft, hpassed, hlater, hothers⟩ := ih htail (by
      intro later hmem
      have hle := hsettled later (List.mem_cons_of_mem _ hmem)
      omega) other
    refine ⟨token.text ++ passed, left', ?_, ?_, ?_, ?_⟩
    · rw [hseen, hleft, List.append_assoc]
    · rw [hpassed, List.flatMap_cons]
    · rw [Text.size_append, ← Nat.add_assoc, ← hstop]
      exact hlater
    · rw [toList_of_next?_eq_some hother, hothers, Text.size_append, ← Nat.add_assoc, ← hstop]
      rfl

end TokenStream

/-! ## 6. The exact bound

Ten bytes are too few: in `lock-on-actives` the first token is the word `lock`, which ends ten bytes
before the end of `lock-on-active`, and without the last letter all of it is one keyword. -/

/-- The first token of a stream that starts in `part` and ends `bound` bytes before the end of it is
the same whatever follows `part`. -/
def LookaheadBound (bound : Nat) : Prop :=
  ∀ (part after other : List Char) (offset : Nat), Text.IsBoundary part offset →
    offset < Text.size part → ∀ token : Token,
      (TokenStream.ofOffset (part ++ after) offset).next?.map Prod.fst = some token →
      token.stop + bound ≤ Text.size part →
        (TokenStream.ofOffset (part ++ other) offset).next?.map Prod.fst = some token

theorem lookaheadBound_of_eleven_le {bound : Nat} (hbound : 11 ≤ bound) : LookaheadBound bound := by
  rintro part after other offset ⟨before, seen, rfl, rfl⟩ - token hfirst hstop
  rw [List.append_assoc, TokenStream.ofOffset_size_append] at hfirst ⊢
  obtain ⟨⟨first, rest⟩, hnext, rfl⟩ := Option.map_eq_some_iff.1 hfirst
  rw [Text.size_append] at hstop
  obtain ⟨left, -, -, hother⟩ := TokenStream.next?_append_of_le hnext
    (Nat.le_trans (Nat.add_le_add_left hbound _) hstop) other
  rw [hother]
  rfl

theorem not_lookaheadBound_ten : ¬LookaheadBound 10 := by
  intro h
  have hsame := h "lock-on-active".toList ['s'] [] 0 ⟨[], "lock-on-active".toList, rfl, rfl⟩
    (by decide +kernel) ⟨.identifier, 0, "lock".toList⟩ (by decide +kernel) (by decide +kernel)
  have hkeyword : (TokenStream.ofOffset ("lock-on-active".toList ++ []) 0).next?.map Prod.fst
      = some ⟨.keyword, 0, "lock-on-active".toList⟩ := by decide +kernel
  rw [hkeyword] at hsame
  cases hsame

theorem LookaheadBound.mono {bound more : Nat} (h : LookaheadBound bound) (hle : bound ≤ more) :
    LookaheadBound more := by
  intro part after other offset hboundary hlt token hfirst hstop
  exact h part after other offset hboundary hlt token hfirst (by omega)

/-- Every token of a scan that ends `lookahead` bytes before a place is a token of the scan of every
other text that is the same up to that place. -/
theorem mem_toList_append_of_lookahead {part after : List Char} {offset : Nat} {token : Token}
    (hboundary : Text.IsBoundary part offset)
    (hmem : token ∈ (TokenStream.ofOffset (part ++ after) offset).toList)
    (hstop : token.stop + lookahead ≤ Text.size part) (other : List Char) :
    token ∈ (TokenStream.ofOffset (part ++ other) offset).toList := by
  obtain ⟨before, seen, rfl, rfl⟩ := hboundary
  rw [List.append_assoc, TokenStream.ofOffset_size_append] at hmem ⊢
  obtain ⟨settled, later, hsplit, -, hseam⟩ := TokenStream.exists_append_stop hmem
  rw [List.append_cons] at hsplit
  -- the token is the last of those up to it, and so none of them ends later
  have hsettled := (TokenStream.tiles_of_toList_eq_append hsplit).1
  rw [← hseam] at hsettled
  have hearly : ∀ earlier ∈ settled ++ [token],
      earlier.stop + 11 ≤ Text.size before + Text.size seen := by
    intro earlier hearlier
    have hle := (hsettled.bounds_of_mem (List.mem_map_of_mem hearlier)).2.2
    simp only [Token.extent] at hle
    rw [Text.size_append, lookahead] at hstop
    omega
  obtain ⟨passed, left, -, -, -, hother⟩ :=
    TokenStream.toList_append_of_le hsplit hearly other
  rw [hother]
  exact List.mem_append_left _ (List.mem_append_right _ List.mem_cons_self)

/-- Eleven bytes are the exact bound, and a change of the text `lookahead` bytes behind a token
leaves the token as it is. -/
theorem lookaheadBound_iff_eleven_le :
    (∀ bound, LookaheadBound bound ↔ 11 ≤ bound) ∧
    ∀ (part after other : List Char) (offset : Nat), Text.IsBoundary part offset →
      ∀ token ∈ (TokenStream.ofOffset (part ++ after) offset).toList,
        token.stop + lookahead ≤ Text.size part →
          token ∈ (TokenStream.ofOffset (part ++ other) offset).toList := by
  constructor
  · intro bound
    constructor
    · intro h
      rcases Nat.lt_or_ge bound 11 with hlt | hge
      · exact absurd (h.mono (Nat.le_of_lt_succ hlt)) not_lookaheadBound_ten
      · exact hge
    · exact lookaheadBound_of_eleven_le
  · intro part after other offset hboundary token hmem hstop
    exact mem_toList_append_of_lookahead hboundary hmem hstop other

end DroolsInk
