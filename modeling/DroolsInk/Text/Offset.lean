/-!
# Byte offsets in a text

A text is the list of its characters, and a position in it is counted in the bytes of its UTF-8
encoding. Only some offsets fall between two characters; those are the *boundaries* of the text.

* `size` is the length of the encoding;
* `cut` splits a text at the greatest boundary that an offset does not precede;
* `floorBoundary` is that boundary;
* `splitAt?` splits at an offset only if it is a boundary.

The lemmas say that a cut loses nothing, that it does not depend on what stands after the cut, and
that cutting where two texts were joined gives the two texts back.
-/

namespace DroolsInk.Text

/-- The number of bytes of the UTF-8 encoding of a text. -/
def size (text : List Char) : Nat := text.foldr (fun c bytes => c.utf8Size + bytes) 0

@[simp] theorem size_nil : size [] = 0 := rfl

@[simp] theorem size_cons (c : Char) (text : List Char) :
    size (c :: text) = c.utf8Size + size text := rfl

@[simp] theorem size_append (before after : List Char) :
    size (before ++ after) = size before + size after := by
  induction before with
  | nil => simp
  | cons c rest ih => simp [ih, Nat.add_assoc]

theorem size_pos_of_ne_nil {text : List Char} (h : text ≠ []) : 0 < size text := by
  cases text with
  | nil => exact absurd rfl h
  | cons c rest =>
    have := c.utf8Size_pos
    simp only [size_cons]
    omega

theorem size_eq_zero_iff {text : List Char} : size text = 0 ↔ text = [] := by
  refine ⟨fun h => ?_, fun h => by simp [h]⟩
  by_cases hne : text = []
  · exact hne
  · have := size_pos_of_ne_nil hne
    omega

/-- Splits a text at the greatest boundary that does not exceed the offset: an offset inside a
character goes back to that character's start, and one past the end stops at the end. -/
def cut : List Char → Nat → List Char × List Char
  | [], _ => ([], [])
  | c :: rest, offset =>
    if offset < c.utf8Size then ([], c :: rest)
    else
      let (before, after) := cut rest (offset - c.utf8Size)
      (c :: before, after)

/-- The greatest boundary of the text that does not exceed the offset. -/
def floorBoundary (text : List Char) (offset : Nat) : Nat := size (cut text offset).1

def splitAt? (text : List Char) (offset : Nat) : Option (List Char × List Char) :=
  let parts := cut text offset
  if size parts.1 = offset then some parts else none

/-- The characters between two offsets, both taken down to boundaries. -/
def slice (text : List Char) (start stop : Nat) : List Char :=
  (cut (cut text stop).1 start).2

/-- An offset is a boundary if it is the size of an initial part of the text. -/
def IsBoundary (text : List Char) (offset : Nat) : Prop :=
  ∃ before after, text = before ++ after ∧ size before = offset

theorem cut_append (text : List Char) (offset : Nat) :
    (cut text offset).1 ++ (cut text offset).2 = text := by
  induction text generalizing offset with
  | nil => rfl
  | cons c rest ih =>
    unfold cut
    split
    · rfl
    · simp [ih]

theorem size_cut_le (text : List Char) (offset : Nat) : size (cut text offset).1 ≤ offset := by
  induction text generalizing offset with
  | nil => simp [cut]
  | cons c rest ih =>
    unfold cut
    split
    · simp
    · have := ih (offset - c.utf8Size)
      simp only [size_cons]
      omega

@[simp] theorem cut_size_append (before after : List Char) :
    cut (before ++ after) (size before) = (before, after) := by
  induction before with
  | nil =>
    cases after with
    | nil => rfl
    | cons c rest => simp [cut, c.utf8Size_pos]
  | cons c rest ih =>
    have hlt : ¬ c.utf8Size + size rest < c.utf8Size := by omega
    simp [cut, hlt, ih]

theorem splitAt?_size_append (before after : List Char) :
    splitAt? (before ++ after) (size before) = some (before, after) := by
  simp [splitAt?]

theorem splitAt?_eq_some_iff {text before after : List Char} {offset : Nat} :
    splitAt? text offset = some (before, after) ↔
      text = before ++ after ∧ size before = offset := by
  constructor
  · intro h
    simp only [splitAt?] at h
    split at h
    · next hsize =>
      have hparts : cut text offset = (before, after) := Option.some.inj h
      have happend := cut_append text offset
      rw [hparts] at hsize happend
      exact ⟨happend.symm, hsize⟩
    · simp at h
  · rintro ⟨rfl, rfl⟩
    exact splitAt?_size_append before after

theorem splitAt?_isSome_iff {text : List Char} {offset : Nat} :
    (splitAt? text offset).isSome = true ↔ IsBoundary text offset := by
  rw [Option.isSome_iff_exists]
  constructor
  · rintro ⟨⟨before, after⟩, h⟩
    exact ⟨before, after, splitAt?_eq_some_iff.1 h⟩
  · rintro ⟨before, after, h⟩
    exact ⟨(before, after), splitAt?_eq_some_iff.2 h⟩

instance (text : List Char) (offset : Nat) : Decidable (IsBoundary text offset) :=
  decidable_of_iff _ splitAt?_isSome_iff

end DroolsInk.Text
