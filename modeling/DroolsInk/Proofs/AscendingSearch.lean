/-!
# Searches in ascending arrays

A search for a number in an ascending array answers where the number stands, or else where it would
have to be put in for the array to ascend still. Either way the answer tells which element is the
last one that does not exceed the number: that one, or the one before that place. In an array that
ascends strictly there is one right answer, so it does not matter how the search goes about it.
Halving is one way.
-/

namespace DroolsInk

/-! ## 1. Right answers -/

/-- What a search for a number in an array answers: where the number stands, or where it would have
to be put in. -/
inductive Placement where
  | found (index : Nat)
  | missing (index : Nat)
  deriving DecidableEq, Repr

/-- The number stands where the answer says. Or else it is nowhere in the array, and the array
ascends with the number put in where the answer says. -/
def Placement.Fits (array : Array Nat) (number : Nat) : Placement → Prop
  | .found index => array.toList[index]? = some number
  | .missing index => number ∉ array.toList ∧ index ≤ array.toList.length ∧
      (array.toList.take index ++ number :: array.toList.drop index).Pairwise (· ≤ ·)

/-- The index of the last element that does not exceed the number, if there is one. -/
def Placement.last? : Placement → Option Nat
  | .found index => some index
  | .missing 0 => none
  | .missing (index + 1) => some index

/-- A search that answers rightly if the array ascends. If a number stands in the array more than
once, any of its places is a right answer. -/
structure AscendingSearch where
  find : Array Nat → Nat → Placement
  fits : ∀ array number, array.toList.Pairwise (· ≤ ·) → (find array number).Fits array number

variable {array : Array Nat} {number start index low high : Nat} {early later : List Nat}

namespace Placement

theorem index_eq_of_found (h : (found index).Fits array number)
    (harray : array.toList = early ++ start :: later) (hearly : ∀ other ∈ early, other < start)
    (hstart : start ≤ number) (hlater : ∀ other ∈ later, number < other) :
    index = early.length := by
  rw [Fits, harray] at h
  rcases Nat.lt_trichotomy index early.length with hlt | heq | hgt
  · rw [List.getElem?_append_left hlt] at h
    have hless := hearly number (List.mem_of_getElem? h)
    exact absurd hstart (Nat.not_le.2 hless)
  · exact heq
  · obtain ⟨behind, rfl⟩ := Nat.exists_eq_add_of_lt hgt
    rw [List.getElem?_append_right (Nat.le_of_lt hgt), Nat.add_assoc, Nat.add_sub_cancel_left,
      List.getElem?_cons_succ] at h
    exact absurd (hlater number (List.mem_of_getElem? h)) (Nat.lt_irrefl _)

theorem index_eq_of_missing (h : (missing index).Fits array number)
    (harray : array.toList = early ++ start :: later) (hstart : start ≤ number)
    (hlater : ∀ other ∈ later, number < other) : index = early.length + 1 := by
  obtain ⟨hnone, hlength, hascends⟩ := h
  rw [harray] at hnone hlength hascends
  obtain ⟨-, hbehind, hbefore⟩ := List.pairwise_append.1 hascends
  rcases Nat.lt_trichotomy index (early.length + 1) with hlt | heq | hgt
  · -- The number would come to stand before `start`, and so it would be `start`.
    have hmem : start ∈ (early ++ start :: later).drop index := by
      rw [List.drop_append_of_le_length (Nat.le_of_lt_succ hlt)]
      simp
    have hle := List.rel_of_pairwise_cons hbehind hmem
    exact absurd (by simp [Nat.le_antisymm hle hstart]) hnone
  · exact heq
  · cases later with
    | nil =>
      rw [List.length_append, List.length_singleton] at hlength
      exact absurd hgt (Nat.not_lt.2 hlength)
    | cons next later =>
      obtain ⟨behind, rfl⟩ := Nat.exists_eq_add_of_lt hgt
      have hmem :
          next ∈ (early ++ start :: next :: later).take (early.length + 1 + behind + 1) := by
        rw [Nat.add_assoc, Nat.add_assoc, List.take_length_add_append, Nat.add_comm 1]
        simp
      have hle := hbefore next hmem number List.mem_cons_self
      exact absurd (hlater next List.mem_cons_self) (Nat.not_lt.2 hle)

/-- Every right answer leads to the one element up to which the array does not exceed the number. -/
theorem last?_eq_of_fits {placement : Placement} (h : placement.Fits array number)
    (harray : array.toList = early ++ start :: later) (hearly : ∀ other ∈ early, other < start)
    (hstart : start ≤ number) (hlater : ∀ other ∈ later, number < other) :
    placement.last? = some early.length := by
  cases placement with
  | found index => rw [last?, index_eq_of_found h harray hearly hstart hlater]
  | missing index =>
    obtain rfl := index_eq_of_missing h harray hstart hlater
    rfl

/-- A number fits in at an index before which the elements are less and from which on they are
greater. -/
theorem fits_missing (h : array.toList.Pairwise (· ≤ ·)) (hindex : index ≤ array.size)
    (hbefore : ∀ i (_ : i < array.size), i < index → array[i] < number)
    (hbehind : ∀ i (_ : i < array.size), index ≤ i → number < array[i]) :
    (missing index).Fits array number := by
  have htake : ∀ value ∈ array.toList.take index, value < number := by
    intro value hmem
    obtain ⟨i, hi, rfl⟩ := List.mem_take_iff_getElem.1 hmem
    obtain ⟨hlow, hsize⟩ := Nat.lt_min.1 hi
    exact hbefore i hsize hlow
  have hdrop : ∀ value ∈ array.toList.drop index, number < value := by
    intro value hmem
    obtain ⟨i, hi, rfl⟩ := List.mem_drop_iff_getElem.1 hmem
    exact hbehind _ (Nat.add_comm index i ▸ hi) (Nat.le_add_right index i)
  have hparts : array.toList.take index ++ array.toList.drop index = array.toList :=
    List.take_append_drop index array.toList
  rw [← hparts, List.pairwise_append] at h
  obtain ⟨hfront, hback, hacross⟩ := h
  refine ⟨?_, hindex, ?_⟩
  · intro hmem
    rw [← hparts, List.mem_append] at hmem
    rcases hmem with hmem | hmem
    · exact absurd (htake number hmem) (Nat.lt_irrefl _)
    · exact absurd (hdrop number hmem) (Nat.lt_irrefl _)
  · refine List.pairwise_append.2 ⟨hfront, List.pairwise_cons.2 ⟨?_, hback⟩, ?_⟩
    · intro value hmem
      exact Nat.le_of_lt (hdrop value hmem)
    · intro value hmem other hother
      rcases List.mem_cons.1 hother with rfl | hother
      · exact Nat.le_of_lt (htake value hmem)
      · exact hacross value hmem other hother

end Placement

/-! ## 2. Halving -/

/-- Halves the range from `low` up to, not including, `high` until the number is met or nothing is
left. -/
def halve (array : Array Nat) (number low high : Nat) (hhigh : high ≤ array.size) : Placement :=
  if h : low < high then
    let middle := (low + high) / 2
    have : middle < array.size := by omega
    if array[middle] = number then .found middle
    else if array[middle] < number then halve array number (middle + 1) high hhigh
    else halve array number low middle (by omega)
  else .missing low
termination_by high - low

theorem getElem_le_getElem (h : array.toList.Pairwise (· ≤ ·)) {first second : Nat}
    (hle : first ≤ second) (hsecond : second < array.size) : array[first] ≤ array[second] := by
  rcases Nat.lt_or_eq_of_le hle with hlt | rfl
  · exact List.pairwise_iff_getElem.1 h first second (Nat.lt_trans hlt hsecond) hsecond hlt
  · exact Nat.le_refl _

/-- What stands before the range is less than the number, and what stands behind it is greater. -/
theorem fits_halve {hhigh : high ≤ array.size} (h : array.toList.Pairwise (· ≤ ·))
    (hle : low ≤ high) (hbefore : ∀ i (_ : i < array.size), i < low → array[i] < number)
    (hbehind : ∀ i (_ : i < array.size), high ≤ i → number < array[i]) :
    (halve array number low high hhigh).Fits array number := by
  fun_induction halve array number low high hhigh with
  | case1 low high hhigh hlt middle hmiddle heq =>
    rw [Placement.Fits, Array.getElem?_toList, Array.getElem?_eq_getElem hmiddle, heq]
  | case2 low high hhigh hlt middle hmiddle hne hless ih =>
    apply ih (by omega) _ hbehind
    intro i hi hlow
    exact Nat.lt_of_le_of_lt (getElem_le_getElem h (Nat.le_of_lt_succ hlow) hmiddle) hless
  | case3 low high hhigh hlt middle hmiddle hne hless ih =>
    apply ih (by omega) hbefore
    intro i hi hhigh
    have hgreater : number < array[middle] := Nat.lt_of_le_of_ne (Nat.not_lt.1 hless) (Ne.symm hne)
    exact Nat.lt_of_lt_of_le hgreater (getElem_le_getElem h hhigh hi)
  | case4 low high hhigh hnone =>
    obtain rfl := Nat.le_antisymm hle (Nat.not_lt.1 hnone)
    exact Placement.fits_missing h hhigh hbefore hbehind

/-- The search by halves. -/
def AscendingSearch.halving : AscendingSearch where
  find array number := halve array number 0 array.size (Nat.le_refl _)
  fits array number h := by
    apply fits_halve h (Nat.zero_le _)
    · intro i _ hi
      exact absurd hi (Nat.not_lt_zero i)
    · intro i hi hsize
      exact absurd hi (Nat.not_lt.2 hsize)

instance : Inhabited AscendingSearch := ⟨.halving⟩

end DroolsInk
