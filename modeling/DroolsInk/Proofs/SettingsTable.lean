import DroolsInk.Proofs.Styles

/-!
# What a settings table means

The entries of a settings table are followed one after another, and each changes one field of the
settings or none. Nothing is read but the entry and that field, so the fields after all entries have
a closed form: each is what the entry of its own key makes of it, wherever among the others the
entry stands. Only the styles can fail.

From this follows what the table means for whoever wrote it. It does not matter in which order the
entries of the table are visited, nor those of its styles.
-/

namespace DroolsInk

open Toml (Value Table Visit DistinctKeys)

theorem Theme.eq_builtin_iff (theme : Theme) : theme = .builtin ↔ theme.chosen = [] := by
  cases theme
  rw [Theme.builtin, Theme.mk.injEq]

namespace Settings

variable {visit : Visit} {settings : Settings} {entries table : Table} {key : String}
  {value : Value}

/-! ## 1. Closed form -/

/-- What an entry for the color makes of the choice. -/
def colorAfter (given? : Option Value) (color : Bool) : Bool :=
  (given?.bind Value.asBoolean?).getD color

/-- What an entry for the tab width makes of the width. -/
def tabWidthAfter (given? : Option Value) (tabWidth : Nat) : Nat :=
  ((given?.bind Value.asInteger?).map clampTabWidth).getD tabWidth

/-- What an entry for the styles makes of the theme. -/
def themeAfter (visit : Visit) (given? : Option Value) (theme : Theme) : Except StyleError Theme :=
  match given? with
  | none => .ok theme
  | some value =>
    match value.asTable? with
    | none => .error .notATable
    | some styles => theme.choose (visit.entries styles)

/-- The settings after what a table has for the three keys. -/
def after (visit : Visit) (settings : Settings) (entries : Table) : Except StyleError Settings := do
  let theme ← themeAfter visit (entries.lookup "styles") settings.theme
  return {
    color := colorAfter (entries.lookup "color") settings.color
    tabWidth := tabWidthAfter (entries.lookup "tab-width") settings.tabWidth
    theme }

/-- The notice about an entry, which is the same whatever the settings are. -/
def noticeAbout? (key : String) (value : Value) : Option Notice :=
  if key = "color" then if value.asBoolean? = none then some (.notBoolean value) else none
  else if key = "tab-width" then if value.asInteger? = none then some (.notInteger value) else none
  else if key = "styles" then none
  else some (.unknownKey key)

/-- Following one entry comes to the closed form for that entry alone. -/
theorem follow_eq (visit : Visit) (settings : Settings) (key : String) (value : Value) :
    settings.follow visit key value = (do
      let next ← settings.after visit [(key, value)]
      return (next, noticeAbout? key value)) := by
  by_cases hcolor : key = "color"
  · subst hcolor
    cases value <;> rfl
  by_cases hwidth : key = "tab-width"
  · subst hwidth
    cases value <;> rfl
  by_cases hstyles : key = "styles"
  · subst hstyles
    cases value with
    | table styles =>
      rw [show settings.after visit [("styles", .table styles)]
        = settings.theme.choose (visit.entries styles)
            >>= fun theme => .ok { settings with theme } from rfl,
        bind_assoc]
      rfl
    | _ => rfl
  · simp only [follow, after, noticeAbout?, if_neg hcolor, if_neg hwidth, if_neg hstyles,
      Toml.lookup_singleton_of_ne (Ne.symm hcolor), Toml.lookup_singleton_of_ne (Ne.symm hwidth),
      Toml.lookup_singleton_of_ne (Ne.symm hstyles)]
    rfl

section Apart

-- Of entries for one key there is at most one, so one of these is always missing.
variable {first? second? : Option Value}

theorem colorAfter_or (h : first? = none ∨ second? = none) (color : Bool) :
    colorAfter (first?.or second?) color = colorAfter second? (colorAfter first? color) := by
  rcases h with rfl | rfl
  · rfl
  · rw [Option.or_none]
    rfl

theorem tabWidthAfter_or (h : first? = none ∨ second? = none) (tabWidth : Nat) :
    tabWidthAfter (first?.or second?) tabWidth
      = tabWidthAfter second? (tabWidthAfter first? tabWidth) := by
  rcases h with rfl | rfl
  · rfl
  · rw [Option.or_none]
    rfl

theorem themeAfter_or (h : first? = none ∨ second? = none) (theme : Theme) :
    themeAfter visit (first?.or second?) theme
      = themeAfter visit first? theme >>= themeAfter visit second? := by
  rcases h with rfl | rfl
  · rfl
  · rw [Option.or_none]
    cases themeAfter visit first? theme <;> rfl

end Apart

/-- What the first entry makes of the settings is left alone by the entries of other keys. -/
theorem after_cons (hnone : entries.lookup key = none) :
    settings.after visit ((key, value) :: entries)
      = settings.after visit [(key, value)] >>= fun next => next.after visit entries := by
  have hor : ∀ name, List.lookup name ((key, value) :: entries)
      = (List.lookup name [(key, value)]).or (entries.lookup name) := by
    intro name
    rw [List.lookup_cons, List.lookup_cons, List.lookup_nil]
    cases name == key <;> rfl
  have hdisjoint : ∀ name, List.lookup name [(key, value)] = none ∨ entries.lookup name = none := by
    intro name
    by_cases hname : name = key
    · exact Or.inr (hname ▸ hnone)
    · exact Or.inl (Toml.lookup_singleton_of_ne hname)
  simp only [after, hor, colorAfter_or (hdisjoint _), tabWidthAfter_or (hdisjoint _),
    themeAfter_or (hdisjoint _), bind_assoc, pure_bind]

theorem followAll_cons :
    settings.followAll visit ((key, value) :: entries)
      = match settings.after visit [(key, value)] with
        | .error error => ([], .error error)
        | .ok next => ((noticeAbout? key value).toList ++ (next.followAll visit entries).1,
            (next.followAll visit entries).2) := by
  rw [followAll, follow_eq]
  cases settings.after visit [(key, value)] <;> rfl

/-- Following all entries comes to the closed form, if no key comes twice. -/
theorem followAll_snd (hdistinct : DistinctKeys entries) :
    (settings.followAll visit entries).2 = settings.after visit entries := by
  induction entries generalizing settings with
  | nil => rfl
  | cons entry entries ih =>
    obtain ⟨key, value⟩ := entry
    obtain ⟨hnone, hdistinct⟩ := Toml.distinctKeys_cons_iff.1 hdistinct
    rw [after_cons hnone, followAll_cons]
    cases settings.after visit [(key, value)] with
    | error error => rfl
    | ok next => exact ih hdistinct

theorem ofTableBy_snd (visit : Visit) (hdistinct : DistinctKeys table) :
    (ofTableBy visit table).2 = after visit {} table := by
  rw [ofTableBy, followAll_snd (hdistinct.of_perm (visit.perm table))]
  simp only [after, hdistinct.lookup_eq_of_perm (visit.perm table)]

/-! ## 2. Meaning -/

/-- The styles of a table. -/
def stylesOf (table : Table) : Table := ((table.lookup "styles").bind Value.asTable?).getD []

/-- No key of a settings table comes twice, nor one of its styles. -/
structure HasDistinctKeys (table : Table) : Prop where
  keys : DistinctKeys table
  styleKeys : DistinctKeys (stylesOf table)

/-- The table has no styles, or a table of styles that are all understood. -/
def Accepts (table : Table) : Prop :=
  ∀ value, table.lookup "styles" = some value →
    ∃ styles, value = .table styles ∧ ∀ entry ∈ styles, Understood entry

/-- The settings are what the table says, and as they are by default where it says nothing. -/
structure IsMeaningOf (settings : Settings) (table : Table) : Prop where
  color : ∀ truth, table.lookup "color" = some (.boolean truth) → settings.color = truth
  color_default : (∀ truth, table.lookup "color" ≠ some (.boolean truth)) → settings.color = true
  tabWidth : ∀ number, table.lookup "tab-width" = some (.integer number) →
    (settings.tabWidth : Int) = max 1 (min 16 number)
  tabWidth_default :
    (∀ number, table.lookup "tab-width" ≠ some (.integer number)) → settings.tabWidth = 4
  tabWidth_mem : 1 ≤ settings.tabWidth ∧ settings.tabWidth ≤ 16
  face : ∀ role : Role,
    GivesFace ((stylesOf table).lookup role.key) role.builtin (settings.theme.face role)
  theme_eq_builtin_iff : settings.theme = .builtin ↔ stylesOf table = []

theorem colorAfter_of_forall_ne {given? : Option Value} {color : Bool}
    (h : ∀ truth, given? ≠ some (.boolean truth)) : colorAfter given? color = color := by
  rcases given? with _ | value
  · rfl
  · cases value with
    | boolean truth => exact absurd rfl (h truth)
    | _ => rfl

theorem tabWidthAfter_of_forall_ne {given? : Option Value} {tabWidth : Nat}
    (h : ∀ number, given? ≠ some (.integer number)) : tabWidthAfter given? tabWidth = tabWidth := by
  rcases given? with _ | value
  · rfl
  · cases value with
    | integer number => exact absurd rfl (h number)
    | _ => rfl

theorem coe_clampTabWidth (number : Int) :
    (clampTabWidth number : Int) = max 1 (min 16 number) := by
  rw [clampTabWidth, tabWidthBounds, Int.toNat_of_nonneg]
  omega

theorem tabWidthAfter_mem (given? : Option Value) :
    1 ≤ tabWidthAfter given? 4 ∧ tabWidthAfter given? 4 ≤ 16 := by
  by_cases h : ∃ number, given? = some (.integer number)
  · obtain ⟨number, rfl⟩ := h
    have hwidth := coe_clampTabWidth number
    rw [show tabWidthAfter (some (.integer number)) 4 = clampTabWidth number from rfl]
    omega
  · rw [tabWidthAfter_of_forall_ne (not_exists.1 h)]
    decide

theorem exists_themeAfter_eq_ok_iff {theme : Theme} :
    (∃ next, themeAfter visit (table.lookup "styles") theme = .ok next) ↔ Accepts table := by
  rw [Accepts]
  rcases table.lookup "styles" with _ | value
  · exact iff_of_true ⟨theme, rfl⟩ nofun
  · cases value with
    | table styles =>
      rw [show themeAfter visit (some (.table styles)) theme
          = theme.choose (visit.entries styles) from rfl, exists_choose_eq_ok_iff]
      simp [(visit.perm styles).mem_iff]
    | _ => exact iff_of_false nofun fun h => nomatch h _ rfl

theorem choose_stylesOf_of_themeAfter {theme next : Theme}
    (h : themeAfter visit (table.lookup "styles") theme = .ok next) :
    ∃ entries, entries.Perm (stylesOf table) ∧ theme.choose entries = .ok next := by
  rw [stylesOf]
  revert h
  rcases table.lookup "styles" with _ | value
  · exact fun h => ⟨[], .nil, h⟩
  · cases value with
    | table styles => exact fun h => ⟨visit.entries styles, visit.perm styles, h⟩
    | _ => exact nofun

theorem isMeaningOf_of_after (hdistinct : HasDistinctKeys table)
    (h : after visit {} table = .ok settings) : settings.IsMeaningOf table := by
  obtain ⟨theme, htheme, hsettings⟩ := bind_eq_ok_iff.1 h
  cases hsettings
  obtain ⟨entries, hperm, hchoose⟩ := choose_stylesOf_of_themeAfter htheme
  refine ⟨?_, ?_, ?_, ?_, tabWidthAfter_mem _, ?_, ?_⟩
  · intro truth hlookup
    rw [hlookup]
    rfl
  · exact colorAfter_of_forall_ne
  · intro number hlookup
    rw [hlookup]
    exact coe_clampTabWidth number
  · exact tabWidthAfter_of_forall_ne
  · intro role
    rw [← hdistinct.styleKeys.lookup_eq_of_perm hperm]
    exact givesFace_of_choose hchoose (hdistinct.styleKeys.of_perm hperm) role
  · calc theme = .builtin
        ↔ theme.chosen = [] := theme.eq_builtin_iff
      _ ↔ entries = [] := (chosen_eq_nil_iff_of_choose hchoose).trans (and_iff_right rfl)
      _ ↔ stylesOf table = [] := by
        rw [← List.length_eq_zero_iff, hperm.length_eq, List.length_eq_zero_iff]

/-- A table is accepted exactly if its styles are understood. It means the same in whichever order
it is visited. -/
theorem accepts_iff_and_isMeaningOf (visit : Visit) (hdistinct : HasDistinctKeys table) :
    ((∃ settings, (ofTableBy visit table).2 = .ok settings) ↔ Accepts table) ∧
      ∀ settings, (ofTableBy visit table).2 = .ok settings → settings.IsMeaningOf table := by
  rw [ofTableBy_snd visit hdistinct.keys]
  refine ⟨?_, fun settings => isMeaningOf_of_after hdistinct⟩
  rw [← exists_themeAfter_eq_ok_iff]
  constructor
  · rintro ⟨settings, hsettings⟩
    obtain ⟨theme, htheme, -⟩ := bind_eq_ok_iff.1 hsettings
    exact ⟨theme, htheme⟩
  · rintro ⟨theme, htheme⟩
    exact ⟨_, bind_eq_ok_iff.2 ⟨theme, htheme, rfl⟩⟩

/-- A table that has something for each key. -/
def fullTable : Table :=
  [("tab-width", .integer 99),
    ("styles", .table [("DRL_STRING", .table [("bg", .string "red"), ("bold", .boolean true)]),
      ("DRL_KEYWORD", .string "blue")]),
    ("color", .boolean false)]

theorem isMeaningOf_fullTable : HasDistinctKeys fullTable ∧ Accepts fullTable ∧
    IsMeaningOf ⟨false, 16, (Theme.builtin.set .keyword (.ofColor .blue)).set .string
      { background := .red, bold := true }⟩ fullTable := by
  have hdistinct : HasDistinctKeys fullTable := ⟨by decide, by decide⟩
  have hspec := accepts_iff_and_isMeaningOf ⟨List.reverse, List.reverse_perm⟩ hdistinct
  exact ⟨hdistinct, hspec.1.1 ⟨_, rfl⟩, hspec.2 _ rfl⟩

end Settings

end DroolsInk
