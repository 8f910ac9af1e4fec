import Mathlib.Order.Bounds.Basic
import DroolsInk.Text.Offset
import DroolsInk.Proofs.ByteOrder

/-!
# Boundaries told from bytes

Offsets into a text count bytes, and the bytes alone tell which offsets are boundaries. A byte that
continues a character lies in a range of its own, so that no character starts with one, and a
character has at most three of them. Whoever stands at an offset inside the text and goes back over
such bytes has therefore taken at most three steps when the boundary comes at which the character of
that offset starts, and has never gone below zero. This boundary is the greatest one that does not
exceed the offset.
-/

namespace DroolsInk.Text

variable {text before after : List Char} {c : Char} {offset index boundary : Nat} {byte : UInt8}

/-! ## 1. Cuts behind a part of a text -/

theorem cut_append_of_size_le (after : List Char) (h : size before ≤ offset) :
    cut (before ++ after) offset =
      (before ++ (cut after (offset - size before)).1, (cut after (offset - size before)).2) := by
  induction before generalizing offset with
  | nil => simp
  | cons c before ih =>
    rw [size_cons] at h
    have hge : ¬ offset < c.utf8Size := Nat.not_lt.2 (Nat.le_of_add_right_le h)
    rw [List.cons_append, cut, if_neg hge, ih (Nat.le_sub_of_add_le' h), size_cons, Nat.sub_sub]
    rfl

theorem floorBoundary_append_of_size_le (after : List Char) (h : size before ≤ offset) :
    floorBoundary (before ++ after) offset =
      size before + floorBoundary after (offset - size before) := by
  rw [floorBoundary, cut_append_of_size_le after h, size_append]
  rfl

/-- An offset inside a character goes back to where the character starts. -/
theorem floorBoundary_size_add (before after : List Char) (h : index < c.utf8Size) :
    floorBoundary (before ++ c :: after) (size before + index) = size before := by
  rw [floorBoundary_append_of_size_le _ (Nat.le_add_right _ _), Nat.add_sub_cancel_left,
    floorBoundary, cut, if_pos h]
  rfl

theorem floorBoundary_of_size_le (h : size text ≤ offset) :
    floorBoundary text offset = size text := by
  have hend := floorBoundary_append_of_size_le [] h
  rwa [List.append_nil] at hend

theorem isBoundary_floorBoundary (text : List Char) (offset : Nat) :
    IsBoundary text (floorBoundary text offset) :=
  ⟨_, _, (cut_append text offset).symm, rfl⟩

theorem floorBoundary_le (text : List Char) (offset : Nat) : floorBoundary text offset ≤ offset :=
  size_cut_le text offset

theorem IsBoundary.le_size (h : IsBoundary text boundary) : boundary ≤ size text := by
  obtain ⟨before, after, rfl, rfl⟩ := h
  rw [size_append]
  exact Nat.le_add_right _ _

theorem IsBoundary.le_floorBoundary (h : IsBoundary text boundary) (hle : boundary ≤ offset) :
    boundary ≤ floorBoundary text offset := by
  obtain ⟨before, after, rfl, rfl⟩ := h
  rw [floorBoundary_append_of_size_le after hle]
  exact Nat.le_add_right _ _

theorem IsBoundary.floorBoundary_eq (h : IsBoundary text boundary) :
    floorBoundary text boundary = boundary :=
  Nat.le_antisymm (floorBoundary_le text boundary) (h.le_floorBoundary (Nat.le_refl _))

theorem monotone_floorBoundary (text : List Char) : Monotone (floorBoundary text) := by
  intro first second hle
  have hfirst := floorBoundary_le text first
  exact (isBoundary_floorBoundary text first).le_floorBoundary (Nat.le_trans hfirst hle)

/-- Every offset inside a text is that of a byte of one of its characters. -/
theorem exists_char_of_lt_size (h : offset < size text) :
    ∃ before c after index, text = before ++ c :: after ∧ offset = size before + index ∧
      index < c.utf8Size := by
  induction text generalizing offset with
  | nil => exact absurd h (Nat.not_lt_zero _)
  | cons first text ih =>
    rcases Nat.lt_or_ge offset first.utf8Size with hlt | hge
    · exact ⟨[], first, text, offset, rfl, (Nat.zero_add _).symm, hlt⟩
    · rw [size_cons] at h
      obtain ⟨before, c, after, index, rfl, hoffset, hindex⟩ := ih (Nat.sub_lt_left_of_lt_add hge h)
      refine ⟨first :: before, c, after, index, rfl, ?_, hindex⟩
      rw [size_cons, Nat.add_assoc, ← hoffset, Nat.add_sub_cancel' hge]

theorem isBoundary_size_add_iff (before after : List Char) (h : index < c.utf8Size) :
    IsBoundary (before ++ c :: after) (size before + index) ↔ index = 0 := by
  constructor
  · intro hboundary
    have hfloor := hboundary.floorBoundary_eq
    rw [floorBoundary_size_add before after h] at hfloor
    exact Nat.left_eq_add.1 hfloor
  · rintro rfl
    exact ⟨before, c :: after, rfl, rfl⟩

/-! ## 2. The bytes of a text -/

theorem encode_append (before after : List Char) :
    encode (before ++ after) = encode before ++ encode after :=
  List.flatMap_append

@[simp] theorem length_encode (text : List Char) : (encode text).length = size text := by
  induction text with
  | nil => rfl
  | cons c text ih => simp [encode_cons, ih]

/-- The bytes of a character are found in the text behind the bytes of what comes before it. -/
theorem getElem?_encode_size_add (before after : List Char) (h : index < c.utf8Size) :
    (encode (before ++ c :: after))[size before + index]? = (String.utf8EncodeChar c)[index]? := by
  rw [encode_append, encode_cons, ← length_encode before,
    List.getElem?_append_right (Nat.le_add_right _ _), Nat.add_sub_cancel_left]
  apply List.getElem?_append_left
  rwa [String.length_utf8EncodeChar]

/-- The byte continues a character. Such bytes lie between those of the ASCII characters and those
that start a character of several bytes. -/
def isContinuation (byte : UInt8) : Bool := 0x80 ≤ byte && byte ≤ 0xBF

theorem isContinuation_ofNat {code : Nat} (h : code < 256) :
    isContinuation (UInt8.ofNat code) = true ↔ 0x80 ≤ code ∧ code ≤ 0xBF := by
  simp [isContinuation, UInt8.le_iff_toNat_le, Nat.mod_eq_of_lt h]

/-- The first byte of a character continues none, and all others do. -/
theorem exists_utf8EncodeChar_eq_cons (c : Char) :
    ∃ lead more, String.utf8EncodeChar c = lead :: more ∧ isContinuation lead = false ∧
      ∀ byte ∈ more, isContinuation byte = true := by
  have hcode := val_toNat_lt c
  unfold String.utf8EncodeChar
  dsimp only
  generalize c.val.toNat = code at *
  -- One case for each length; what is left are the bounds of the numbers that the bytes are made
  -- from.
  repeat' split
  all_goals
    refine ⟨_, _, rfl, ?_, ?_⟩
    · rw [Bool.eq_false_iff, Ne, isContinuation_ofNat (by omega)]
      omega
    · simp (disch := omega) only [List.mem_cons, List.not_mem_nil, forall_eq_or_imp,
        isContinuation_ofNat, false_imp_iff, implies_true, and_true] <;> omega

theorem isContinuation_getElem?_iff (h : (String.utf8EncodeChar c)[index]? = some byte) :
    isContinuation byte = true ↔ index ≠ 0 := by
  obtain ⟨lead, more, hbytes, hlead, hmore⟩ := exists_utf8EncodeChar_eq_cons c
  rw [hbytes] at h
  cases index with
  | zero =>
    obtain rfl := Option.some.inj h
    simp [hlead]
  | succ index => simp [hmore byte (List.mem_of_getElem? h)]

/-- The offset is a boundary, as the byte there tells. -/
def isBoundaryIn (bytes : List UInt8) (offset : Nat) : Bool :=
  offset = 0 ||
    match bytes[offset]? with
    | some byte => !isContinuation byte
    | none => offset = bytes.length

theorem isBoundaryIn_size_add_iff (before after : List Char) (h : index < c.utf8Size) :
    isBoundaryIn (encode (before ++ c :: after)) (size before + index) = true ↔ index = 0 := by
  have hbyte := List.getElem?_eq_getElem (String.length_utf8EncodeChar c ▸ h)
  have hcontinues := isContinuation_getElem?_iff hbyte
  rw [isBoundaryIn, getElem?_encode_size_add before after h, hbyte]
  simp only [Bool.or_eq_true, decide_eq_true_eq, Bool.not_eq_true', Nat.add_eq_zero_iff,
    ← Bool.not_eq_true, hcontinues, not_not]
  exact or_iff_right_of_imp And.right

theorem isBoundaryIn_encode_iff :
    isBoundaryIn (encode text) offset = true ↔ IsBoundary text offset := by
  rcases Nat.lt_or_ge offset (size text) with hlt | hge
  · obtain ⟨before, c, after, index, rfl, rfl, hindex⟩ := exists_char_of_lt_size hlt
    rw [isBoundaryIn_size_add_iff before after hindex, isBoundary_size_add_iff before after hindex]
  · have hnone : (encode text)[offset]? = none := by
      rwa [List.getElem?_eq_none_iff, length_encode]
    rw [isBoundaryIn, hnone, length_encode, Bool.or_eq_true, decide_eq_true_eq, decide_eq_true_eq]
    constructor
    · rintro (rfl | rfl)
      · exact ⟨[], text, rfl, rfl⟩
      · exact ⟨text, [], (List.append_nil text).symm, rfl⟩
    · intro hboundary
      exact Or.inr (Nat.le_antisymm hboundary.le_size hge)

/-! ## 3. Going back over bytes -/

/-- Goes back from an offset to the first boundary, over at most so many bytes. Gives nothing if
these are not enough, or if the next offset would be below zero. -/
def goBack? (bytes : List UInt8) (steps offset : Nat) : Option Nat :=
  if isBoundaryIn bytes offset then some offset
  else
    match steps, offset with
    | steps + 1, offset + 1 => goBack? bytes steps offset
    | _, _ => none

/-- `floorBoundary`, found from the bytes by going back over at most so many of them. -/
def floorBoundaryIn? (bytes : List UInt8) (steps offset : Nat) : Option Nat :=
  if bytes.length ≤ offset then some bytes.length else goBack? bytes steps offset

/-- The number of bytes between the offset and the start of its character is the number of the
steps. -/
theorem goBack?_encode {steps : Nat} (before after : List Char) (h : index < c.utf8Size)
    (hsteps : index ≤ steps) :
    goBack? (encode (before ++ c :: after)) steps (size before + index) = some (size before) := by
  induction index generalizing steps with
  | zero =>
    unfold goBack?
    rw [if_pos ((isBoundaryIn_size_add_iff before after h).2 rfl)]
    rfl
  | succ index ih =>
    obtain ⟨steps, rfl⟩ := Nat.exists_eq_succ_of_ne_zero (Nat.ne_zero_of_lt hsteps)
    unfold goBack?
    rw [if_neg (mt (isBoundaryIn_size_add_iff before after h).1 (Nat.succ_ne_zero index))]
    exact ih (Nat.lt_of_succ_lt h) (Nat.le_of_succ_le_succ hsteps)

theorem floorBoundaryIn?_encode (text : List Char) (offset : Nat) :
    floorBoundaryIn? (encode text) 3 offset = some (floorBoundary text offset) := by
  rw [floorBoundaryIn?, length_encode]
  rcases Nat.lt_or_ge offset (size text) with hlt | hge
  · rw [if_neg (Nat.not_le.2 hlt)]
    obtain ⟨before, c, after, index, rfl, rfl, hindex⟩ := exists_char_of_lt_size hlt
    have hsteps : index ≤ 3 := Nat.le_of_lt_succ (Nat.lt_of_lt_of_le hindex c.utf8Size_le_four)
    rw [goBack?_encode before after hindex hsteps, floorBoundary_size_add before after hindex]
  · rw [if_pos hge, floorBoundary_of_size_le hge]

theorem isGreatest_floorBoundary (text : List Char) (offset : Nat) :
    IsGreatest {boundary | IsBoundary text boundary ∧ boundary ≤ min offset (size text)}
      (floorBoundary text offset) := by
  have hfloor := isBoundary_floorBoundary text offset
  refine ⟨⟨hfloor, Nat.le_min.2 ⟨floorBoundary_le text offset, hfloor.le_size⟩⟩, ?_⟩
  rintro boundary ⟨hboundary, hle⟩
  exact hboundary.le_floorBoundary (Nat.le_min.1 hle).1

/-- What `floorBoundary` finds in a text. -/
structure FloorsBoundaries (text : List Char) : Prop where
  /-- A byte tells whether it stands at a boundary. -/
  isBoundaryIn_iff : ∀ offset, isBoundaryIn (encode text) offset = true ↔ IsBoundary text offset
  /-- Three steps back are enough, and none goes below zero. -/
  goesBack : ∀ offset, floorBoundaryIn? (encode text) 3 offset = some (floorBoundary text offset)
  isGreatest : ∀ offset, IsGreatest
    {boundary | IsBoundary text boundary ∧ boundary ≤ min offset (size text)}
    (floorBoundary text offset)
  idempotent : ∀ offset, floorBoundary text (floorBoundary text offset) = floorBoundary text offset
  monotone : Monotone (floorBoundary text)
  eq_of_isBoundary : ∀ offset, IsBoundary text offset → floorBoundary text offset = offset
  /-- The byte at an offset inside the text is one of those of the character that starts at the
  floor. -/
  startsCharacter : ∀ offset, offset < size text → ∃ before c after index,
    text = before ++ c :: after ∧ floorBoundary text offset = size before ∧
      offset = size before + index ∧ index < (String.utf8EncodeChar c).length ∧
      (encode text)[offset]? = (String.utf8EncodeChar c)[index]?

/-- The greatest boundary that does not exceed an offset is found from the bytes of the text, by
going back over at most three of them. It is where the character of that offset starts. -/
theorem floorsBoundaries (text : List Char) : FloorsBoundaries text := by
  constructor
  case isBoundaryIn_iff => exact fun offset => isBoundaryIn_encode_iff
  case goesBack => exact floorBoundaryIn?_encode text
  case isGreatest => exact isGreatest_floorBoundary text
  case idempotent =>
    intro offset
    exact (isBoundary_floorBoundary text offset).floorBoundary_eq
  case monotone => exact monotone_floorBoundary text
  case eq_of_isBoundary =>
    intro offset hboundary
    exact hboundary.floorBoundary_eq
  case startsCharacter =>
    intro offset hlt
    obtain ⟨before, c, after, index, rfl, rfl, hindex⟩ := exists_char_of_lt_size hlt
    refine ⟨before, c, after, index, rfl, floorBoundary_size_add before after hindex, rfl, ?_,
      getElem?_encode_size_add before after hindex⟩
    rwa [String.length_utf8EncodeChar]

/-- The last byte of a character of four bytes is three steps away from its start. -/
example : floorBoundaryIn? (encode "é𝄞".toList) 3 5 = some 2 ∧
    floorBoundaryIn? (encode "é𝄞".toList) 2 5 = none := by
  decide

end DroolsInk.Text
