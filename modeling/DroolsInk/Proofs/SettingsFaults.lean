import DroolsInk.Proofs.ByteOrder
import DroolsInk.Proofs.SettingsTable

/-!
# What is told about a settings table

A settings table is visited by its keys, in the order of their bytes, and so are its styles. If it
cannot be followed then this is because of its styles, and the error is about the first of them that
is not understood. All else that a table has changes neither whether there is an error nor what it
says.

The notices are those about the entries before the error, or about all entries if there is none. An
entry gives at most one notice, and whether it does depends on the entry alone.
-/

namespace DroolsInk

open Toml (Value Table Visit DistinctKeys)

/-- The bytes of a key, by which the keys of a table are ordered. -/
def keyBytes (key : String) : List UInt8 := Text.encode key.toList

theorem keyBytes_lt_iff {key other : String} : keyBytes key < keyBytes other ↔ key < other :=
  Text.encode_toList_lt_iff

namespace Settings

variable {visit : Visit} {settings last : Settings} {entries table other : Table}
  {key text : String} {value : Value} {notice : Notice}

/-! ## 1. The error -/

/-- What is wrong with the styles of a table. -/
inductive StylesFault : Option Value → String → Prop where
  | notATable {value : Value} (h : ∀ styles, value ≠ .table styles) :
    StylesFault (some value) "styles must be a table"
  | entry {styles : Table} {key text : String} {value : Value} (hmem : (key, value) ∈ styles)
    (hfault : EntryFault key value text)
    (hleast : ∀ other ∈ styles, keyBytes other.1 < keyBytes key → Understood other) :
    StylesFault (some (.table styles)) text

theorem failsWith_choose_sortByKey {theme : Theme} {styles : Table}
    (hdistinct : DistinctKeys styles) :
    FailsWith (theme.choose (Toml.sortByKey styles)) text
      ↔ StylesFault (some (.table styles)) text := by
  rw [failsWith_choose_iff]
  constructor
  · rintro ⟨early, key, value, later, hsplit, hearly, hfault⟩
    refine .entry ?_ hfault fun other hother hlt => hearly other ?_
    · rw [← (Toml.perm_sortByKey styles).mem_iff, hsplit]
      simp
    · exact (hdistinct.mem_of_sortByKey_eq hsplit).2 ⟨hother, keyBytes_lt_iff.1 hlt⟩
  · rintro (hnot | ⟨hmem, hfault, hleast⟩)
    · exact absurd rfl (hnot styles)
    · obtain ⟨early, later, hsplit⟩ :=
        List.append_of_mem ((Toml.perm_sortByKey styles).mem_iff.2 hmem)
      refine ⟨early, _, _, later, hsplit, fun other hother => ?_, hfault⟩
      obtain ⟨hother, hlt⟩ := (hdistinct.mem_of_sortByKey_eq hsplit).1 hother
      exact hleast other hother (keyBytes_lt_iff.2 hlt)

theorem failsWith_after :
    FailsWith (settings.after visit entries) text ↔
      FailsWith (themeAfter visit (entries.lookup "styles") settings.theme) text := by
  rw [after, failsWith_bind]
  constructor
  · rintro (hfails | ⟨_, -, hfails⟩)
    · exact hfails
    · exact absurd hfails not_failsWith_ok
  · exact Or.inl

theorem not_stylesFault_none : ¬StylesFault none text := by
  intro hfault
  cases hfault

theorem stylesFault_iff_of_ne (h : ∀ styles, value ≠ .table styles) :
    StylesFault (some value) text ↔ "styles must be a table" = text := by
  constructor
  · intro hfault
    cases hfault with
    | notATable => rfl
    | entry => exact absurd rfl (h _)
  · rintro rfl
    exact .notATable h

theorem themeAfter_of_ne (h : ∀ styles, value ≠ .table styles) (visit : Visit) (theme : Theme) :
    themeAfter visit (some value) theme = .error .notATable := by
  cases value with
  | table styles => exact absurd rfl (h styles)
  | _ => rfl

theorem failsWith_ofTable (hdistinct : HasDistinctKeys table) :
    FailsWith (ofTable table).2 text ↔ StylesFault (table.lookup "styles") text := by
  rw [ofTable, ofTableBy_snd _ hdistinct.keys, failsWith_after]
  have hstyles := hdistinct.styleKeys
  rw [stylesOf] at hstyles
  rcases hlookup : table.lookup "styles" with _ | value
  · exact iff_of_false not_failsWith_ok not_stylesFault_none
  rw [hlookup] at hstyles
  by_cases htable : ∃ styles, value = .table styles
  · obtain ⟨styles, rfl⟩ := htable
    exact failsWith_choose_sortByKey hstyles
  · rw [themeAfter_of_ne (not_exists.1 htable), failsWith_error,
      stylesFault_iff_of_ne (not_exists.1 htable)]
    rfl

/-! ## 2. Equal styles -/

theorem parseColorEntry_ordered (given? : Option Value) :
    parseColorEntry (given?.map Value.ordered) = parseColorEntry given? := by
  rcases given? with _ | value
  · rfl
  · simp [parseColorEntry]

theorem flagAt_ordered (entries : Table) (key : String) :
    flagAt (Toml.sortByKey (Toml.orderEntries entries)) key = flagAt entries key := by
  rw [flagAt, flagAt, Toml.lookup_sortByKey_orderEntries]
  rcases entries.lookup key with _ | value
  · rfl
  · simp

theorem parseFace_ordered_table (entries : Table) :
    parseFace (Value.ordered (.table entries)) = parseFace (.table entries) := by
  rw [Value.ordered, parseFace_table, parseFace_table]
  simp only [Toml.lookup_sortByKey_orderEntries, parseColorEntry_ordered, flagAt_ordered]

theorem faceFault_ordered_iff : FaceFault value.ordered text ↔ FaceFault value text := by
  rw [← failsWith_parseFace, ← failsWith_parseFace]
  cases value with
  | table entries => rw [parseFace_ordered_table]
  | array items =>
    rw [show parseFace (Value.ordered (.array items))
        = .error (.notAFace (Value.ordered (.array items))) from rfl,
      show parseFace (.array items) = .error (.notAFace (.array items)) from rfl, failsWith_error,
      failsWith_error, StyleError.detail, StyleError.detail, Toml.render_ordered]
  | _ => rfl

theorem entryFault_ordered_iff : EntryFault key value.ordered text ↔ EntryFault key value text := by
  constructor
  · rintro (hnone | hfault)
    · exact .role hnone
    · exact .face (faceFault_ordered_iff.1 hfault)
  · rintro (hnone | hfault)
    · exact .role hnone
    · exact .face (faceFault_ordered_iff.2 hfault)

theorem understood_ordered_iff : Understood (key, value.ordered) ↔ Understood (key, value) := by
  simp only [understood_iff, entryFault_ordered_iff]

theorem mem_sortByKey_orderEntries_iff {styles : Table} :
    (key, value) ∈ Toml.sortByKey (Toml.orderEntries styles) ↔
      ∃ written, (key, written) ∈ styles ∧ written.ordered = value := by
  rw [(Toml.perm_sortByKey _).mem_iff, Toml.orderEntries_eq_map, List.mem_map]
  simp only [Prod.exists, Prod.mk.injEq]
  constructor
  · rintro ⟨key, written, hmem, rfl, hvalue⟩
    exact ⟨written, hmem, hvalue⟩
  · rintro ⟨written, hmem, hvalue⟩
    exact ⟨key, written, hmem, rfl, hvalue⟩

theorem stylesFault_ordered_table {styles : Table} :
    StylesFault (some (Value.ordered (.table styles))) text
      ↔ StylesFault (some (.table styles)) text := by
  rw [Value.ordered]
  constructor
  · rintro (hnot | ⟨hmem, hfault, hleast⟩)
    · exact absurd rfl (hnot _)
    · obtain ⟨written, hwritten, rfl⟩ := mem_sortByKey_orderEntries_iff.1 hmem
      refine .entry hwritten (entryFault_ordered_iff.1 hfault) fun other hother hlt => ?_
      exact understood_ordered_iff.1
        (hleast _ (mem_sortByKey_orderEntries_iff.2 ⟨_, hother, rfl⟩) hlt)
  · rintro (hnot | ⟨hmem, hfault, hleast⟩)
    · exact absurd rfl (hnot styles)
    · refine .entry (mem_sortByKey_orderEntries_iff.2 ⟨_, hmem, rfl⟩)
        (entryFault_ordered_iff.2 hfault) ?_
      rintro ⟨key, value⟩ hother hlt
      obtain ⟨written, hwritten, rfl⟩ := mem_sortByKey_orderEntries_iff.1 hother
      exact understood_ordered_iff.2 (hleast _ hwritten hlt)

theorem stylesFault_ordered_iff {given? : Option Value} :
    StylesFault (given?.map Value.ordered) text ↔ StylesFault given? text := by
  rcases given? with _ | value
  · rfl
  · cases value with
    | table styles => exact stylesFault_ordered_table
    | array items =>
      have hne : ∀ {items}, ∀ styles, Value.array items ≠ .table styles := nofun
      rw [Option.map_some, Value.ordered, stylesFault_iff_of_ne hne, stylesFault_iff_of_ne hne]
    | _ => rfl

/-! ## 3. The notices -/

/-- What is told about an entry: that the color is no boolean, that the tab width is no integer, or
that nothing has this key. -/
inductive Tells : String → Value → Notice → Prop where
  | notBoolean {value : Value} (h : ∀ truth, value ≠ .boolean truth) :
    Tells "color" value (.notBoolean value)
  | notInteger {value : Value} (h : ∀ number, value ≠ .integer number) :
    Tells "tab-width" value (.notInteger value)
  | unknownKey {key : String} {value : Value} (h : key ∉ ["color", "tab-width", "styles"]) :
    Tells key value (.unknownKey key)

theorem asBoolean?_eq_none_iff : value.asBoolean? = none ↔ ∀ truth, value ≠ .boolean truth := by
  cases value <;> simp [Value.asBoolean?]

theorem asInteger?_eq_none_iff : value.asInteger? = none ↔ ∀ number, value ≠ .integer number := by
  cases value <;> simp [Value.asInteger?]

theorem noticeAbout?_eq_some_iff :
    noticeAbout? key value = some notice ↔ Tells key value notice := by
  constructor
  · unfold noticeAbout?
    intro h
    split at h
    · next hcolor =>
      subst hcolor
      split at h
      · next hnone =>
        cases h
        exact .notBoolean (asBoolean?_eq_none_iff.1 hnone)
      · cases h
    split at h
    · next hwidth =>
      subst hwidth
      split at h
      · next hnone =>
        cases h
        exact .notInteger (asInteger?_eq_none_iff.1 hnone)
      · cases h
    split at h
    · cases h
    · cases h
      exact .unknownKey (by simp [*])
  · rintro (hvalue | hvalue | hkey)
    · simp [noticeAbout?, asBoolean?_eq_none_iff.2 hvalue]
    · simp [noticeAbout?, asInteger?_eq_none_iff.2 hvalue]
    · simp only [List.mem_cons, List.not_mem_nil, or_false, not_or] at hkey
      simp [noticeAbout?, hkey]

theorem eq_styles_of_after_eq_error {error : StyleError}
    (h : settings.after visit [(key, value)] = .error error) : key = "styles" := by
  by_cases hkey : "styles" = key
  · exact hkey.symm
  · rw [after, Toml.lookup_singleton_of_ne hkey] at h
    cases h

/-- The notices are about all entries that are followed: all there are, or all before the styles. -/
theorem followAll_fst (visit : Visit) (settings : Settings) (entries : Table) :
    ∃ followed later, entries = followed ++ later ∧
      (settings.followAll visit entries).1
          = followed.filterMap (fun entry => noticeAbout? entry.1 entry.2) ∧
      ((∃ last, (settings.followAll visit entries).2 = .ok last) ∧ later = [] ∨
        (∃ error, (settings.followAll visit entries).2 = .error error) ∧
          ∃ value rest, later = ("styles", value) :: rest) := by
  induction entries generalizing settings with
  | nil => exact ⟨[], [], rfl, rfl, Or.inl ⟨⟨_, rfl⟩, rfl⟩⟩
  | cons entry entries ih =>
    obtain ⟨key, value⟩ := entry
    rw [followAll_cons]
    cases hafter : settings.after visit [(key, value)] with
    | error error =>
      -- Only the styles can fail, so the entry at which the visit stops is theirs.
      obtain rfl := eq_styles_of_after_eq_error hafter
      exact ⟨[], _, rfl, rfl, Or.inr ⟨⟨error, rfl⟩, value, entries, rfl⟩⟩
    | ok next =>
      obtain ⟨followed, later, rfl, hnotices, hlater⟩ := ih next
      refine ⟨(key, value) :: followed, later, rfl, ?_, hlater⟩
      rw [List.filterMap_cons, ← hnotices]
      cases noticeAbout? key value <;> rfl

/-- The key is visited if all keys are, and otherwise if it comes before the styles. -/
def Visits (table : Table) (key : String) : Prop :=
  (∃ settings, (ofTable table).2 = .ok settings) ∨ keyBytes key < keyBytes "styles"

/-- The notices about entries, each with the key of its entry. -/
def toldAbout (entries : Table) : List (String × Notice) :=
  entries.filterMap fun entry => (noticeAbout? entry.1 entry.2).map (entry.1, ·)

theorem map_snd_toldAbout (entries : Table) :
    (toldAbout entries).map Prod.snd
      = entries.filterMap fun entry => noticeAbout? entry.1 entry.2 := by
  rw [toldAbout, List.map_filterMap]
  congr 1
  funext entry
  cases noticeAbout? entry.1 entry.2 <;> rfl

theorem mem_toldAbout_iff :
    (key, notice) ∈ toldAbout entries
      ↔ ∃ value, (key, value) ∈ entries ∧ Tells key value notice := by
  simp only [toldAbout, List.mem_filterMap, Option.map_eq_some_iff, noticeAbout?_eq_some_iff]
  constructor
  · rintro ⟨⟨key, value⟩, hmem, notice, htells, heq⟩
    cases heq
    exact ⟨value, hmem, htells⟩
  · rintro ⟨value, hmem, htells⟩
    exact ⟨(key, value), hmem, notice, htells, rfl⟩

theorem pairwise_toldAbout (h : entries.Pairwise fun first second => first.1 < second.1) :
    (toldAbout entries).Pairwise fun first second => keyBytes first.1 < keyBytes second.1 := by
  refine h.filterMap _ ?_
  intro first second hlt told htold told' htold'
  obtain ⟨notice, -, rfl⟩ := Option.map_eq_some_iff.1 htold
  obtain ⟨notice', -, rfl⟩ := Option.map_eq_some_iff.1 htold'
  exact keyBytes_lt_iff.2 hlt

theorem exists_followed (hdistinct : DistinctKeys table) :
    ∃ followed, (ofTable table).1 = (toldAbout followed).map Prod.snd ∧
      (followed.Pairwise fun first second => first.1 < second.1) ∧
      ∀ entry, entry ∈ followed ↔ entry ∈ table ∧ Visits table entry.1 := by
  obtain ⟨followed, later, hsplit, hnotices, hlater⟩ :=
    followAll_fst .byKey {} (Toml.sortByKey table)
  have hsorted := hdistinct.pairwise_lt_sortByKey
  rw [hsplit] at hsorted
  refine ⟨followed, hnotices.trans (map_snd_toldAbout followed).symm,
    (List.pairwise_append.1 hsorted).1, ?_⟩
  intro entry
  rcases hlater with ⟨hok, rfl⟩ | ⟨⟨error, herror⟩, value, rest, rfl⟩
  · rw [← (Toml.perm_sortByKey table).mem_iff, hsplit, List.append_nil]
    exact (and_iff_left (Or.inl hok)).symm
  · have hfails : ¬∃ settings, (ofTable table).2 = .ok settings := by
      rw [show (ofTable table).2 = .error error from herror]
      exact nofun
    rw [Visits, or_iff_right hfails, hdistinct.mem_of_sortByKey_eq hsplit, keyBytes_lt_iff]

/-- What is told about a table. Whether there is an error and what it says is up to the styles
alone, so two tables with the same styles, in whichever order they write them, have the same error.
Floats are the same here only if their texts are, so that a zero with a sign is not one without. -/
theorem failsWith_iff_and_exists_told (hdistinct : HasDistinctKeys table) :
    (∀ text, FailsWith (ofTable table).2 text ↔ StylesFault (table.lookup "styles") text) ∧
      (∀ other, HasDistinctKeys other →
        (other.lookup "styles").map Value.ordered = (table.lookup "styles").map Value.ordered →
        ∀ text, FailsWith (ofTable other).2 text ↔ FailsWith (ofTable table).2 text) ∧
      ∃ told : List (String × Notice), (ofTable table).1 = told.map Prod.snd ∧
        (told.Pairwise fun first second => keyBytes first.1 < keyBytes second.1) ∧
        ∀ key notice, (key, notice) ∈ told ↔
          ∃ value, (key, value) ∈ table ∧ Tells key value notice ∧ Visits table key := by
  refine ⟨fun text => failsWith_ofTable hdistinct, ?_, ?_⟩
  · intro other hother hstyles text
    rw [failsWith_ofTable hother, failsWith_ofTable hdistinct, ← stylesFault_ordered_iff, hstyles,
      stylesFault_ordered_iff]
  · obtain ⟨followed, hnotices, hsorted, hmem⟩ := exists_followed hdistinct.keys
    refine ⟨toldAbout followed, hnotices, pairwise_toldAbout hsorted, fun key notice => ?_⟩
    simp only [mem_toldAbout_iff, hmem, and_right_comm, and_assoc]

def faultyTable : Table :=
  [("zoom", .integer 1),
    ("styles", .table [("DRL_STRING", .string "pink"),
      ("DRL_KEYWORD", .table [("fg", .string "teal"), ("bg", .string "mauve")])]),
    ("color", .integer 0)]

/-- The same styles, written in another order and alone. -/
def faultyStyles : Table :=
  [("styles", .table [("DRL_KEYWORD", .table [("bg", .string "mauve"), ("fg", .string "teal")]),
    ("DRL_STRING", .string "pink")])]

theorem failsWith_faultyTable : HasDistinctKeys faultyTable ∧ HasDistinctKeys faultyStyles ∧
    FailsWith (ofTable faultyTable).2 "teal" ∧ FailsWith (ofTable faultyStyles).2 "teal" := by
  have hdistinct : HasDistinctKeys faultyTable := ⟨by decide, by decide⟩
  have hother : HasDistinctKeys faultyStyles := ⟨by decide, by decide⟩
  obtain ⟨hfault, hsame, -⟩ := failsWith_iff_and_exists_told hdistinct
  have hteal : FailsWith (ofTable faultyTable).2 "teal" := by
    refine (hfault "teal").2 (.entry (List.mem_cons_of_mem _ List.mem_cons_self)
      (@EntryFault.face .keyword _ _ (.foreground rfl (by decide))) ?_)
    intro other hmem hlt
    simp only [List.mem_cons, List.not_mem_nil, or_false] at hmem
    rcases hmem with rfl | rfl
    · exact absurd hlt (by decide)
    · exact absurd hlt (by decide)
  refine ⟨hdistinct, hother, hteal, (hsame _ hother ?_ _).2 hteal⟩
  simp [faultyTable, faultyStyles, List.lookup_cons, Value.ordered, Toml.orderEntries,
    Toml.sortByKey, List.mergeSort, List.MergeSort.Internal.splitInTwo]

end Settings

end DroolsInk
