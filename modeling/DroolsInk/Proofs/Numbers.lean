import DroolsInk.Text.Offset
import DroolsInk.Token.Number

/-!
# The tails of a number are marks that lead in something

The fraction, the exponent and the hexadecimal digits of a number literal have one shape: a mark,
the point or a letter, and what it leads in, which counts only if there is some of it. What holds of
every reading of this shape is shown of the shape once and taken over to the three of them.
-/

namespace DroolsInk

/-- A mark and what it leads in, or nothing if the mark leads in nothing. -/
def leadLength (isMark : Char → Bool) (count : List Char → Nat) : List Char → Nat
  | [] => 0
  | mark :: rest => if isMark mark = true ∧ 0 < count rest then 1 + count rest else 0

namespace Number

/-- The digits of an exponent with the sign before them; a sign without digits counts for nothing.
-/
def signedDigits (text : List Char) : Nat :=
  let count := digits (text.drop (sign text))
  if count = 0 then 0 else sign text + count

/-! ## 1. Signs -/

theorem sign_le_length (text : List Char) : sign text ≤ text.length := by
  unfold sign
  split <;> simp

theorem sign_cons_of_ne {first : Char} (h : ¬(first = '+' ∨ first = '-')) (rest : List Char) :
    sign (first :: rest) = 0 := by
  unfold sign
  split <;> simp_all

theorem sign_append {seen : List Char} (h : seen ≠ []) (after : List Char) :
    sign (seen ++ after) = sign seen := by
  cases seen with
  | nil => exact absurd rfl h
  | cons first rest =>
    unfold sign
    rw [List.cons_append]
    split <;> simp_all

theorem drop_sign_append {seen : List Char} (h : seen ≠ []) (after : List Char) :
    (seen ++ after).drop (sign (seen ++ after)) = seen.drop (sign seen) ++ after := by
  rw [sign_append h, List.drop_append_of_le_length (sign_le_length seen)]

theorem size_drop_sign (text : List Char) :
    Text.size text ≤ Text.size (text.drop (sign text)) + 1 := by
  cases text with
  | nil => simp
  | cons first rest =>
    by_cases hsign : first = '+' ∨ first = '-'
    · have hone : first.utf8Size = 1 := by rcases hsign with rfl | rfl <;> rfl
      have hdrop : (first :: rest).drop (sign (first :: rest)) = rest := by
        rcases hsign with rfl | rfl <;> rfl
      rw [hdrop, Text.size_cons, hone]
      exact Nat.le_of_eq (Nat.add_comm _ _)
    · rw [sign_cons_of_ne hsign, List.drop_zero]
      exact Nat.le_succ _

/-! ## 2. The three tails -/

theorem fraction_of_ne {mark : Char} (h : mark ≠ '.') (rest : List Char) :
    fraction (mark :: rest) = 0 := by
  unfold fraction
  split
  · next heq => exact absurd (List.cons.inj heq).1 h
  · rfl

theorem fraction_eq_leadLength : fraction = leadLength (· == '.') digits := by
  funext text
  cases text with
  | nil => rfl
  | cons mark rest =>
    by_cases hmark : mark = '.'
    · subst hmark
      by_cases hzero : digits rest = 0
      · simp [fraction, leadLength, hzero]
      · simp [fraction, leadLength, hzero, Nat.pos_of_ne_zero hzero]
    · rw [fraction_of_ne hmark]
      simp [leadLength, hmark]

theorem exponent_cons (mark : Char) (rest : List Char) :
    exponent (mark :: rest) =
      if (mark = 'e' ∨ mark = 'E') ∧ 0 < digits (rest.drop (sign rest)) then
        1 + sign rest + digits (rest.drop (sign rest)) else 0 := rfl

theorem exponent_eq_leadLength :
    exponent = leadLength (fun mark => mark == 'e' || mark == 'E') signedDigits := by
  funext text
  cases text with
  | nil => rfl
  | cons mark rest =>
    rw [exponent_cons]
    simp only [leadLength, signedDigits, Bool.or_eq_true, beq_iff_eq]
    by_cases hzero : digits (rest.drop (sign rest)) = 0
    · simp [hzero]
    · have hpos := Nat.pos_of_ne_zero hzero
      have hwhole := Nat.add_pos_right (sign rest) hpos
      simp only [if_neg hzero, hpos, hwhole, and_true, Nat.add_assoc]

theorem hexTail?_cons (first mark : Char) (rest : List Char) :
    hexTail? first (mark :: rest) =
      if first = '0' ∧ (mark = 'x' ∨ mark = 'X') ∧ 0 < (rest.takeWhile isHexDigit).length then
        some (1 + (rest.takeWhile isHexDigit).length) else none := rfl

theorem hexTail?_eq_leadLength (first : Char) :
    hexTail? first = fun text =>
      let length := leadLength (fun mark => first == '0' && (mark == 'x' || mark == 'X'))
        (fun rest => (rest.takeWhile isHexDigit).length) text
      if length = 0 then none else some length := by
  funext text
  cases text with
  | nil => rfl
  | cons mark rest =>
    rw [hexTail?_cons]
    simp only [leadLength, Bool.and_eq_true, Bool.or_eq_true, beq_iff_eq, and_assoc]
    split
    · simp
    · rfl

theorem getD_hexTail? (length : Nat) :
    (if length = 0 then none else some length : Option Nat).getD 0 = length := by
  split
  · next hzero => exact hzero.symm
  · rfl

end Number

end DroolsInk
