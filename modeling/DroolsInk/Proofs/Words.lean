import DroolsInk.Text.Blank
import DroolsInk.Text.Offset
import DroolsInk.Token.Word

/-!
# Which hyphenated keyword a text starts with

The hyphenated keywords are looked for one after another, but their order is without influence: none
of them starts with another, so that a text starts with one of them at most. A hyphenated keyword
is a word, a hyphen and more; where it starts a text, the word is the whole run of word characters
at the start of the text, and at most ten bytes of the keyword stand after the run.

A spelling that *runs on* into a longer word does not count. It is the one thing that the end of a
part hides: cut right after the spelling, the part has a keyword where the whole text has none.
-/

namespace DroolsInk.Word

/-- The part spells a hyphenated keyword, and the text goes on with a word character after it. -/
def RunsOn (part rest : List Char) : Prop := part ∈ hyphenatedKeywords ∧ goesOn rest = true

instance (part rest : List Char) : Decidable (RunsOn part rest) :=
  inferInstanceAs (Decidable (_ ∧ _))

/-- A character that starts a word, and neither a run of blanks nor a number. -/
def isOpening (c : Char) : Bool := !Text.isBlank c && !c.isDigit && isStart c

theorem isPart_of_isOpening {c : Char} (h : isOpening c = true) : isPart c = true := by
  simp only [isOpening, Bool.and_eq_true] at h
  exact isPart_of_isStart h.2

/-! ## 1. The table -/

theorem eq_of_prefix_of_mem : ∀ keyword ∈ hyphenatedKeywords, ∀ other ∈ hyphenatedKeywords,
    keyword <+: other → keyword = other := by
  decide +kernel

theorem run_lt_length_of_mem : ∀ keyword ∈ hyphenatedKeywords, run keyword < keyword.length := by
  decide +kernel

theorem size_drop_run_le_of_mem : ∀ keyword ∈ hyphenatedKeywords,
    Text.size (keyword.drop (run keyword)) ≤ 10 := by
  decide +kernel

-- the quantifier over the characters is a `List.all` here, so that only the spellings are gone
-- through
theorem all_isOpening_of_mem : ∀ keyword ∈ hyphenatedKeywords,
    keyword.all (fun c => c == '-' || isOpening c) = true := by
  decide +kernel

theorem head_isOpening_of_mem : ∀ keyword ∈ hyphenatedKeywords,
    keyword.head?.all isOpening = true := by
  decide +kernel

theorem getLast_isOpening_of_mem : ∀ keyword ∈ hyphenatedKeywords,
    keyword.getLast?.all isOpening = true := by
  decide +kernel

/-! ## 2. The search -/

variable {keyword other text seen after : List Char}

theorem eq_of_prefixes (hmem : keyword ∈ hyphenatedKeywords) (hother : other ∈ hyphenatedKeywords)
    (hstarts : keyword <+: text) (hstarts' : other <+: text) : other = keyword := by
  rcases Nat.le_total other.length keyword.length with hle | hle
  · exact eq_of_prefix_of_mem other hother keyword hmem
      (List.prefix_of_prefix_length_le hstarts' hstarts hle)
  · exact (eq_of_prefix_of_mem keyword hmem other hother
      (List.prefix_of_prefix_length_le hstarts hstarts' hle)).symm

theorem hyphenatedKeyword?_eq_some_iff :
    hyphenatedKeyword? text = some keyword ↔
      keyword ∈ hyphenatedKeywords ∧ keyword <+: text ∧
        goesOn (text.drop keyword.length) = false := by
  unfold hyphenatedKeyword?
  constructor
  · intro h
    have hmem := List.mem_of_find?_eq_some h
    have hfound := List.find?_some h
    simp only [Bool.and_eq_true, List.isPrefixOf_iff_prefix, Bool.not_eq_true'] at hfound
    exact ⟨hmem, hfound⟩
  · rintro ⟨hmem, hstarts, hends⟩
    have hsome : (hyphenatedKeywords.find? fun keyword =>
        keyword.isPrefixOf text && !goesOn (text.drop keyword.length)).isSome = true := by
      rw [List.find?_isSome]
      exact ⟨keyword, hmem, by simp [hstarts, hends]⟩
    obtain ⟨other, hother⟩ := Option.isSome_iff_exists.1 hsome
    have hmem' := List.mem_of_find?_eq_some hother
    have hfound := List.find?_some hother
    simp only [Bool.and_eq_true, List.isPrefixOf_iff_prefix] at hfound
    rw [hother, eq_of_prefixes hmem hmem' hstarts hfound.1]

/-- A keyword that ends before the end of `seen` is found or not whatever stands after `seen`. -/
theorem hyphenatedKeyword?_append_eq_some_iff (after : List Char)
    (h : keyword.length < seen.length) :
    hyphenatedKeyword? (seen ++ after) = some keyword ↔
      hyphenatedKeyword? seen = some keyword := by
  rw [hyphenatedKeyword?_eq_some_iff, hyphenatedKeyword?_eq_some_iff]
  have hstarts : keyword <+: seen ++ after ↔ keyword <+: seen := by
    constructor
    · intro hprefix
      exact List.prefix_of_prefix_length_le hprefix (List.prefix_append seen after) (Nat.le_of_lt h)
    · intro hprefix
      exact hprefix.trans (List.prefix_append seen after)
  have hends : goesOn ((seen ++ after).drop keyword.length)
      = goesOn (seen.drop keyword.length) := by
    rw [List.drop_append_of_le_length (Nat.le_of_lt h), List.drop_eq_getElem_cons h]
    rfl
  rw [hstarts, hends]

/-- A keyword within `seen` is found in `seen` alone exactly if it is found in the whole text,
unless `seen` is a spelling that runs on. -/
theorem hyphenatedKeyword?_append_iff_of_le (hle : keyword.length ≤ seen.length)
    (hrunsOn : ¬RunsOn seen after) :
    hyphenatedKeyword? (seen ++ after) = some keyword ↔
      hyphenatedKeyword? seen = some keyword := by
  rcases Nat.lt_or_eq_of_le hle with hlt | heq
  · exact hyphenatedKeyword?_append_eq_some_iff after hlt
  · rw [hyphenatedKeyword?_eq_some_iff, hyphenatedKeyword?_eq_some_iff, heq, List.drop_left,
      List.drop_length]
    constructor
    · rintro ⟨hmem, hstarts, -⟩
      exact ⟨hmem, List.prefix_of_prefix_length_le hstarts (List.prefix_append seen after) hle, rfl⟩
    · rintro ⟨hmem, hstarts, -⟩
      -- the keyword is all of `seen`, so `after` cannot go on
      have hsame : keyword = seen := hstarts.eq_of_length heq
      refine ⟨hmem, hstarts.trans (List.prefix_append seen after), ?_⟩
      rw [Bool.eq_false_iff]
      intro hgoes
      exact hrunsOn ⟨hsame ▸ hmem, hgoes⟩

theorem hyphenatedKeyword?_of_runsOn (h : RunsOn seen after) :
    hyphenatedKeyword? (seen ++ after) = none := by
  rw [Option.eq_none_iff_forall_not_mem]
  intro keyword hkeyword
  obtain ⟨hmem, hstarts, hends⟩ := hyphenatedKeyword?_eq_some_iff.1 hkeyword
  have hsame : keyword = seen := eq_of_prefixes h.1 hmem (List.prefix_append seen after) hstarts
  rw [hsame, List.drop_left, h.2] at hends
  cases hends

/-! ## 3. The run of word characters before the first hyphen -/

theorem run_append_of_lt (h : run seen < seen.length) :
    run (seen ++ after) = run seen := by
  unfold run at h ⊢
  rw [List.takeWhile_append, if_neg (Nat.ne_of_lt h)]

theorem run_eq_of_prefix (hmem : keyword ∈ hyphenatedKeywords) (hstarts : keyword <+: text) :
    run text = run keyword := by
  obtain ⟨after, rfl⟩ := hstarts
  exact run_append_of_lt (run_lt_length_of_mem keyword hmem)

theorem run_cons {first : Char} (h : isPart first = true) (rest : List Char) :
    run (first :: rest) = run rest + 1 := by
  simp [run, h]

end DroolsInk.Word
