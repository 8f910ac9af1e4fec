import DroolsInk.Token.Extent

/-!
# Where string literals and block comments are closed

A closing mark is found in the characters up to it and in none after it. So a literal or a comment
that is closed within a part of a text is closed at the same place whatever follows the part, and
what follows can close only one that the part leaves open.
-/

namespace DroolsInk.Token

/-! ## 1. String literals -/

variable {mark c : Char} {passed length : Nat} {seen after text : List Char}

theorem stringEnd?_cons_mark (mark : Char) (passed : Nat) (rest : List Char) :
    stringEnd? mark passed (mark :: rest) = some (passed + 1) := by
  rw [stringEnd?.eq_def]
  simp

theorem stringEnd?_cons_escape (h : mark ≠ '\\') (passed : Nat) (c : Char) (rest : List Char) :
    stringEnd? mark passed ('\\' :: c :: rest) = stringEnd? mark (passed + 2) rest := by
  rw [stringEnd?.eq_def]
  simp [Ne.symm h]

theorem stringEnd?_cons_of_ne (hmark : c ≠ mark) (hescape : c ≠ '\\') (passed : Nat)
    (rest : List Char) :
    stringEnd? mark passed (c :: rest) = stringEnd? mark (passed + 1) rest := by
  rw [stringEnd?.eq_def]
  simp [hmark, hescape]

theorem lt_of_stringEnd?_eq_some (h : stringEnd? mark passed text = some length) :
    passed < length := by
  fun_induction stringEnd? mark passed text with
  | case1 => cases h
  | case2 passed rest =>
    cases h
    exact Nat.lt_succ_self passed
  | case3 => cases h
  | case4 passed c rest hmark ih => exact Nat.lt_trans (by omega) (ih h)
  | case5 passed c rest hmark hescape ih => exact Nat.lt_trans (Nat.lt_succ_self passed) (ih h)

/-- A literal is closed by what stands up to its closing quote, and by nothing after it. -/
theorem stringEnd?_append_iff :
    stringEnd? mark passed (seen ++ after) = some length ∧ length ≤ passed + seen.length ↔
      stringEnd? mark passed seen = some length := by
  fun_induction stringEnd? mark passed seen with
  | case1 passed =>
    constructor
    · rintro ⟨h, hle⟩
      exact absurd hle (Nat.not_le.2 (lt_of_stringEnd?_eq_some h))
    · intro h
      cases h
  | case2 passed rest =>
    rw [List.cons_append, stringEnd?_cons_mark, List.length_cons]
    constructor
    · exact fun h => h.1
    · intro h
      cases h
      exact ⟨rfl, by omega⟩
  | case3 passed hmark =>
    constructor
    · rintro ⟨h, hle⟩
      -- the escaped character stands after the part, and so does the quote
      cases after with
      | nil => simp [stringEnd?.eq_def, hmark] at h
      | cons c rest =>
        rw [List.cons_append, List.nil_append, stringEnd?_cons_escape (Ne.symm hmark)] at h
        have hlt := lt_of_stringEnd?_eq_some h
        simp only [List.length_cons, List.length_nil] at hle
        omega
    · intro h
      cases h
  | case4 passed c rest hmark ih =>
    rw [List.cons_append, List.cons_append, stringEnd?_cons_escape (Ne.symm hmark), ← ih,
      List.length_cons, List.length_cons,
      show passed + (rest.length + 1 + 1) = passed + 2 + rest.length by omega]
  | case5 passed c rest hmark hescape ih =>
    rw [List.cons_append, stringEnd?_cons_of_ne hmark hescape, ← ih, List.length_cons,
      show passed + (rest.length + 1) = passed + 1 + rest.length by omega]

/-! ## 2. Block comments -/

theorem lt_of_commentEnd?_eq_some (h : commentEnd? passed text = some length) :
    passed + 1 < length := by
  fun_induction commentEnd? passed text with
  | case1 passed rest =>
    cases h
    exact Nat.lt_succ_self (passed + 1)
  | case2 passed c rest hopen ih => exact Nat.lt_trans (Nat.lt_succ_self _) (ih h)
  | case3 => cases h

/-- A comment is closed by what stands up to its closing mark, and by nothing after it. -/
theorem commentEnd?_append_iff :
    commentEnd? passed (seen ++ after) = some length ∧ length ≤ passed + seen.length ↔
      commentEnd? passed seen = some length := by
  fun_induction commentEnd? passed seen with
  | case1 passed rest =>
    rw [List.cons_append, List.cons_append, commentEnd?.eq_1, List.length_cons, List.length_cons]
    constructor
    · exact fun h => h.1
    · intro h
      cases h
      exact ⟨rfl, by omega⟩
  | case2 passed c rest hopen ih =>
    rw [List.cons_append, List.length_cons]
    by_cases hsplit : ∃ tail, c = '*' ∧ rest ++ after = '/' :: tail
    · -- the star is the last character of the part, and the slash stands after it
      obtain ⟨tail, rfl, htail⟩ := hsplit
      have hnil : rest = [] := by
        cases rest with
        | nil => rfl
        | cons next rest => exact (hopen rest rfl (by simp_all)).elim
      subst hnil
      rw [htail, commentEnd?.eq_1]
      constructor
      · rintro ⟨h, hle⟩
        cases h
        simp only [List.length_nil] at hle
        omega
      · intro h
        cases h
    · rw [commentEnd?.eq_2 _ _ _ fun tail hstar hslash => hsplit ⟨tail, hstar, hslash⟩, ← ih,
        show passed + (rest.length + 1) = passed + 1 + rest.length by omega]
  | case3 passed =>
    constructor
    · rintro ⟨h, hle⟩
      have hlt := lt_of_commentEnd?_eq_some h
      simp only [List.length_nil] at hle
      omega
    · intro h
      cases h

/-! ## 3. Closed or open

What is never closed takes the whole text. -/

/-- What is found in a part of a text is what is found in the text, if it lies in the part. -/
def FindsWithin (findEnd : List Char → Option Nat) : Prop :=
  ∀ seen after length,
    findEnd (seen ++ after) = some length ∧ length ≤ seen.length ↔ findEnd seen = some length

theorem findsWithin_stringEnd? (mark : Char) : FindsWithin (stringEnd? mark 0) := by
  intro seen after length
  rw [← Nat.zero_add seen.length]
  exact stringEnd?_append_iff

theorem findsWithin_commentEnd? : FindsWithin (commentEnd? 0) := by
  intro seen after length
  rw [← Nat.zero_add seen.length]
  exact commentEnd?_append_iff

/-- Whether there is an end, and how much of the text is taken. -/
def enclosed (findEnd : List Char → Option Nat) (text : List Char) : Bool × Nat :=
  match findEnd text with
  | some length => (true, length)
  | none => (false, text.length)

theorem stringExtent_eq (mark : Char) :
    stringExtent mark = fun rest =>
      let found := enclosed (stringEnd? mark 0) rest
      (if found.1 then .string else .openString, found.2) := by
  funext rest
  unfold stringExtent enclosed
  cases stringEnd? mark 0 rest <;> rfl

theorem slashExtent_cons_star (rest : List Char) :
    slashExtent ('*' :: rest) =
      let found := enclosed (commentEnd? 0) rest
      (if found.1 then .comment else .openComment, 1 + found.2) := by
  rw [slashExtent.eq_2]
  unfold enclosed
  cases commentEnd? 0 rest <;> rfl

theorem isOpen_stringExtent (mark : Char) (rest : List Char) :
    (stringExtent mark rest).1.isOpen = !(enclosed (stringEnd? mark 0) rest).1 := by
  simp only [stringExtent_eq]
  cases (enclosed (stringEnd? mark 0) rest).1 <;> rfl

theorem isOpen_slashExtent_cons_star (rest : List Char) :
    (slashExtent ('*' :: rest)).1.isOpen = !(enclosed (commentEnd? 0) rest).1 := by
  simp only [slashExtent_cons_star]
  cases (enclosed (commentEnd? 0) rest).1 <;> rfl

end DroolsInk.Token
