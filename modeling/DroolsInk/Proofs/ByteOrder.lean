import DroolsInk.Text.Utf8

/-!
# The order of bytes

Texts are ordered by their code points. This is the order of their UTF-8 bytes as well: a longer
encoding starts with a greater byte, and encodings of one length have the digits of the code point
from the highest one on. So whoever sorts keys by their bytes and whoever sorts them by their
characters gets the same.
-/

namespace DroolsInk.Text

theorem val_toNat_lt (char : Char) : char.val.toNat < 0x110000 := by
  rcases char.valid with h | ⟨-, h⟩
  · exact Nat.lt_trans h (by decide)
  · exact h

theorem encodeChar_append_lt {first second : Char} (h : first < second) (rest others : List UInt8) :
    String.utf8EncodeChar first ++ rest < String.utf8EncodeChar second ++ others := by
  have hcodes : first.val.toNat < second.val.toNat := h
  have hlast := val_toNat_lt second
  unfold String.utf8EncodeChar
  dsimp only
  generalize first.val.toNat = low at *
  generalize second.val.toNat = high at *
  -- One case for each two lengths; all that is left is about the digits of the two codes.
  repeat' split
  all_goals
    simp (disch := omega) only [List.cons_append, List.nil_append, List.cons_lt_cons_iff,
      UInt8.lt_iff_toNat_lt, ← UInt8.toNat_inj, UInt8.toNat_ofNat', Nat.mod_eq_of_lt]
    try omega

theorem encode_cons (char : Char) (text : List Char) :
    encode (char :: text) = String.utf8EncodeChar char ++ encode text :=
  List.flatMap_cons

theorem encode_lt_encode {text other : List Char} (h : text < other) :
    encode text < encode other := by
  induction text generalizing other with
  | nil =>
    cases other with
    | nil => exact absurd h (List.lt_irrefl _)
    | cons char other =>
      obtain ⟨byte, bytes, hchar⟩ :=
        List.exists_cons_of_ne_nil (String.utf8EncodeChar_ne_nil (c := char))
      rw [encode_cons, hchar]
      exact List.nil_lt_cons _ _
  | cons first text ih =>
    cases other with
    | nil => exact absurd h (List.not_lt_nil _)
    | cons second other =>
      rw [encode_cons, encode_cons]
      rcases List.cons_lt_cons_iff.1 h with hchar | ⟨rfl, htext⟩
      · exact encodeChar_append_lt hchar _ _
      · exact List.append_left_lt (ih htext)

/-- One text comes before another exactly if its bytes do. -/
theorem encode_toList_lt_iff {text other : String} :
    encode text.toList < encode other.toList ↔ text < other := by
  refine ⟨fun hbytes => ?_, encode_lt_encode⟩
  by_cases hlt : text < other
  · exact hlt
  by_cases hgt : other < text
  · exact absurd hbytes (List.lt_asymm (encode_lt_encode hgt))
  · obtain rfl := String.le_antisymm (String.not_lt.1 hgt) (String.not_lt.1 hlt)
    exact absurd hbytes (List.lt_irrefl _)

end DroolsInk.Text
