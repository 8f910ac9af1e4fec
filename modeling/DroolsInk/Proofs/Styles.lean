import DroolsInk.Settings.Basic
import DroolsInk.Proofs.Tables

/-!
# What styles choose

A table of styles gives faces to roles, one entry at a time. An entry is understood if its key is
that of a role and its value stands for a face: the name of a color, or a table whose two colors are
named rightly where they are named at all. What is wrong with any other entry is settled by the
entry alone, and of several things the first in a fixed order counts: the key, a color word, the
foreground, the background, and at last that the value is neither a text nor a table.

So all entries are followed exactly if each of them is understood, and otherwise the first that is
not decides. The faces that were chosen in between do not matter for this, since following an entry
looks at nothing but the entry. Each entry sets the face of its own role and of no other, so that
the order of the entries does not matter for the faces, as long as no key comes twice.
-/

namespace DroolsInk

open Toml (Value Table)

/-! ## 1. Results that fail with a text -/

/-- The result is an error, and this is what its message tells about it. -/
def FailsWith {α : Type} (result : Except StyleError α) (text : String) : Prop :=
  ∃ error, result = .error error ∧ error.detail = text

section Results

variable {α β : Type} {text : String}

theorem not_failsWith_ok {result : α} : ¬FailsWith (.ok result) text := by
  rintro ⟨error, herror, -⟩
  cases herror

theorem failsWith_error {error : StyleError} :
    FailsWith (.error error : Except StyleError α) text ↔ error.detail = text := by
  constructor
  · rintro ⟨error, herror, htext⟩
    cases herror
    exact htext
  · intro htext
    exact ⟨error, rfl, htext⟩

theorem failsWith_bind {first : Except StyleError α} {next : α → Except StyleError β} :
    FailsWith (first >>= next) text ↔
      FailsWith first text ∨ ∃ result, first = .ok result ∧ FailsWith (next result) text := by
  cases first with
  | error error =>
    rw [show (Except.error error >>= next) = .error error from rfl, failsWith_error,
      failsWith_error]
    simp
  | ok result => simp [not_failsWith_ok, bind, Except.bind]

theorem bind_eq_ok_iff {first : Except StyleError α} {next : α → Except StyleError β} {result : β} :
    (first >>= next) = .ok result ↔ ∃ middle, first = .ok middle ∧ next middle = .ok result := by
  cases first with
  | error error => exact ⟨nofun, fun ⟨_, hmiddle, _⟩ => nomatch hmiddle⟩
  | ok middle => simp [bind, Except.bind]

theorem exists_eq_ok_iff {result : Except StyleError α} :
    (∃ value, result = .ok value) ↔ ∀ text, ¬FailsWith result text := by
  cases result with
  | error error =>
    refine iff_of_false nofun ?_
    exact fun h => h error.detail (failsWith_error.2 rfl)
  | ok value => exact iff_of_true ⟨value, rfl⟩ fun _ => not_failsWith_ok

end Results

/-! ## 2. Faces -/

/-- The color that an entry of a face table gives: a text names it, and anything else, or no entry
at all, stands for the default. -/
def GivesColor : Option Value → Color → Prop
  | some (.string word), color => Color.ofName? word = some color
  | _, color => color = .default

/-- The table has the colors and the flags of the face. -/
structure Face.IsOfTable (face : Face) (entries : Table) : Prop where
  foreground : GivesColor (entries.lookup "fg") face.foreground
  background : GivesColor (entries.lookup "bg") face.background
  bold_iff : face.bold = true ↔ entries.lookup "bold" = some (.boolean true)
  italic_iff : face.italic = true ↔ entries.lookup "italic" = some (.boolean true)
  underline_iff : face.underline = true ↔ entries.lookup "underline" = some (.boolean true)

/-- The value stands for the face. -/
inductive Denotes : Value → Face → Prop where
  | color {word : String} {color : Color} (h : Color.ofName? word = some color) :
    Denotes (.string word) (.ofColor color)
  | table {entries : Table} {face : Face} (h : face.IsOfTable entries) :
    Denotes (.table entries) face

/-- The value is the name of a color, or a table that names a color wherever it has a text for one.
-/
def IsStyle : Value → Prop
  | .string word => (Color.ofName? word).isSome = true
  | .table entries => ∀ key ∈ ["fg", "bg"], ∀ word, entries.lookup key = some (.string word) →
      (Color.ofName? word).isSome = true
  | _ => False

/-- What is wrong with a value that stands for no face. -/
inductive FaceFault : Value → String → Prop where
  | word {word : String} (h : Color.ofName? word = none) : FaceFault (.string word) word
  | foreground {entries : Table} {word : String} (hword : entries.lookup "fg" = some (.string word))
    (h : Color.ofName? word = none) : FaceFault (.table entries) word
  | background {entries : Table} {word : String}
    (hfirst : ∀ other, entries.lookup "fg" = some (.string other) → Color.ofName? other ≠ none)
    (hword : entries.lookup "bg" = some (.string word)) (h : Color.ofName? word = none) :
    FaceFault (.table entries) word
  | notAFace {value : Value} (hword : ∀ word, value ≠ .string word)
    (htable : ∀ entries, value ≠ .table entries) : FaceFault value (String.ofList value.render)

variable {value : Value} {entries : Table} {face : Face} {color : Color} {word text key : String}

theorem parseColor_eq_ok_iff : parseColor word = .ok color ↔ Color.ofName? word = some color := by
  unfold parseColor
  split <;> simp_all

theorem failsWith_parseColor :
    FailsWith (parseColor word) text ↔ Color.ofName? word = none ∧ word = text := by
  unfold parseColor
  split
  · next hcolor => simp [not_failsWith_ok, hcolor]
  · next hnone =>
    rw [failsWith_error]
    exact ⟨fun htext => ⟨hnone, htext⟩, And.right⟩

/-- What following an entry of a face table for a color gives. -/
def parseColorEntry (given? : Option Value) : Except StyleError Color :=
  match given?.bind Value.asString? with
  | some word => parseColor word
  | none => .ok .default

theorem parseColorEntry_eq_ok_iff {given? : Option Value} :
    parseColorEntry given? = .ok color ↔ GivesColor given? color := by
  rcases given? with _ | value
  · simp [parseColorEntry, GivesColor, eq_comm]
  · cases value with
    | string word => exact parseColor_eq_ok_iff
    | _ => simp [parseColorEntry, GivesColor, Value.asString?, eq_comm]

theorem failsWith_parseColorEntry {given? : Option Value} :
    FailsWith (parseColorEntry given?) text ↔
      given? = some (.string text) ∧ Color.ofName? text = none := by
  rcases given? with _ | value
  · simp [parseColorEntry, not_failsWith_ok]
  · cases value with
    | string word =>
      rw [show parseColorEntry (some (.string word)) = parseColor word from rfl,
        failsWith_parseColor]
      constructor
      · rintro ⟨hnone, rfl⟩
        exact ⟨rfl, hnone⟩
      · rintro ⟨hsame, hnone⟩
        cases hsame
        exact ⟨hnone, rfl⟩
    | _ => simp [parseColorEntry, Value.asString?, not_failsWith_ok]

def flagAt (entries : Table) (key : String) : Bool :=
  ((entries.lookup key).bind Value.asBoolean?).getD false

theorem flagAt_eq_true_iff :
    flagAt entries key = true ↔ entries.lookup key = some (.boolean true) := by
  unfold flagAt
  rcases entries.lookup key with _ | value
  · simp
  · cases value <;> simp [Value.asBoolean?]

theorem parseFace_table (entries : Table) :
    parseFace (.table entries) = (do
      let foreground ← parseColorEntry (entries.lookup "fg")
      let background ← parseColorEntry (entries.lookup "bg")
      return ⟨foreground, background, flagAt entries "bold", flagAt entries "italic",
        flagAt entries "underline"⟩) := rfl

theorem parseFace_table_eq_ok_iff :
    parseFace (.table entries) = .ok face ↔ face.IsOfTable entries := by
  rw [parseFace_table]
  simp only [bind_eq_ok_iff, parseColorEntry_eq_ok_iff]
  constructor
  · rintro ⟨foreground, hforeground, background, hbackground, hface⟩
    cases hface
    exact ⟨hforeground, hbackground, flagAt_eq_true_iff, flagAt_eq_true_iff, flagAt_eq_true_iff⟩
  · rintro ⟨hforeground, hbackground, hbold, hitalic, hunderline⟩
    refine ⟨face.foreground, hforeground, face.background, hbackground, ?_⟩
    have hflag : ∀ {key flag}, (flag = true ↔ entries.lookup key = some (.boolean true)) →
        flagAt entries key = flag :=
      fun h => Bool.eq_iff_iff.2 (flagAt_eq_true_iff.trans h.symm)
    rw [hflag hbold, hflag hitalic, hflag hunderline]
    rfl

theorem parseFace_eq_ok_iff : parseFace value = .ok face ↔ Denotes value face := by
  constructor
  · intro h
    cases value with
    | string word =>
      obtain ⟨color, hcolor, hface⟩ := bind_eq_ok_iff.1 h
      cases hface
      exact .color (parseColor_eq_ok_iff.1 hcolor)
    | table entries => exact .table (parseFace_table_eq_ok_iff.1 h)
    | _ => cases h
  · rintro (hcolor | htable)
    · exact bind_eq_ok_iff.2 ⟨_, parseColor_eq_ok_iff.2 hcolor, rfl⟩
    · exact parseFace_table_eq_ok_iff.2 htable

theorem failsWith_parseFace_table :
    FailsWith (parseFace (.table entries)) text ↔ FaceFault (.table entries) text := by
  rw [parseFace_table]
  simp only [failsWith_bind, failsWith_parseColorEntry]
  constructor
  · rintro (⟨hword, hnone⟩ | ⟨foreground, hforeground, ⟨hword, hnone⟩ | ⟨background, -, hfails⟩⟩)
    · exact .foreground hword hnone
    · refine .background (fun other hother hnone' => ?_) hword hnone
      exact exists_eq_ok_iff.1 ⟨_, hforeground⟩ other (failsWith_parseColorEntry.2 ⟨hother, hnone'⟩)
    · exact absurd hfails not_failsWith_ok
  · rintro (_ | ⟨hword, hnone⟩ | ⟨hfirst, hword, hnone⟩ | ⟨-, htable⟩)
    · exact Or.inl ⟨hword, hnone⟩
    · right
      obtain ⟨foreground, hforeground⟩ := exists_eq_ok_iff.2 fun other hfails =>
        let ⟨hother, hnone'⟩ := failsWith_parseColorEntry.1 hfails
        hfirst other hother hnone'
      exact ⟨foreground, hforeground, Or.inl ⟨hword, hnone⟩⟩
    · exact absurd rfl (htable entries)

theorem parseFace_of_ne (hword : ∀ word, value ≠ .string word)
    (htable : ∀ entries, value ≠ .table entries) :
    parseFace value = .error (.notAFace value) := by
  cases value with
  | string word => exact absurd rfl (hword word)
  | table entries => exact absurd rfl (htable entries)
  | _ => rfl

theorem failsWith_parseFace : FailsWith (parseFace value) text ↔ FaceFault value text := by
  by_cases hword : ∃ word, value = .string word
  · obtain ⟨word, rfl⟩ := hword
    rw [show parseFace (.string word)
        = parseColor word >>= fun color => .ok (.ofColor color) from rfl,
      failsWith_bind, failsWith_parseColor]
    simp only [not_failsWith_ok, and_false, exists_false, or_false]
    constructor
    · rintro ⟨hnone, rfl⟩
      exact .word hnone
    · rintro (hnone | _ | _ | ⟨hword, -⟩)
      · exact ⟨hnone, rfl⟩
      · exact absurd rfl (hword word)
  by_cases htable : ∃ entries, value = .table entries
  · obtain ⟨entries, rfl⟩ := htable
    exact failsWith_parseFace_table
  rw [parseFace_of_ne (not_exists.1 hword) (not_exists.1 htable), failsWith_error]
  constructor
  · rintro rfl
    exact .notAFace (not_exists.1 hword) (not_exists.1 htable)
  · intro hfault
    cases hfault with
    | word => exact absurd ⟨_, rfl⟩ hword
    | foreground => exact absurd ⟨_, rfl⟩ htable
    | background => exact absurd ⟨_, rfl⟩ htable
    | notAFace => rfl

theorem isStyle_iff : IsStyle value ↔ ∀ text, ¬FaceFault value text := by
  constructor
  · intro hstyle text hfault
    cases hfault with
    | word hnone =>
      rw [IsStyle, hnone] at hstyle
      cases hstyle
    | foreground hword hnone =>
      have hsome := hstyle "fg" (by simp) _ hword
      rw [hnone] at hsome
      cases hsome
    | background _ hword hnone =>
      have hsome := hstyle "bg" (by simp) _ hword
      rw [hnone] at hsome
      cases hsome
    | notAFace hword htable =>
      cases value with
      | string word => exact hword word rfl
      | table entries => exact htable entries rfl
      | _ => exact hstyle
  · intro hnone
    have hsome : ∀ {word}, Color.ofName? word ≠ none → (Color.ofName? word).isSome = true :=
      Option.isSome_iff_ne_none.2
    cases value with
    | string word => exact hsome fun hword => hnone word (.word hword)
    | table entries =>
      have hforeground : ∀ word,
          entries.lookup "fg" = some (.string word) → Color.ofName? word ≠ none :=
        fun word hlookup hword => hnone word (.foreground hlookup hword)
      have hbackground : ∀ word,
          entries.lookup "bg" = some (.string word) → Color.ofName? word ≠ none :=
        fun word hlookup hword => hnone word (.background hforeground hlookup hword)
      intro key hkey word hlookup
      simp only [List.mem_cons, List.not_mem_nil, or_false] at hkey
      rcases hkey with rfl | rfl
      · exact hsome (hforeground word hlookup)
      · exact hsome (hbackground word hlookup)
    | _ => exact hnone _ (.notAFace nofun nofun)

theorem exists_denotes_iff : (∃ face, Denotes value face) ↔ IsStyle value := by
  simp only [isStyle_iff, ← parseFace_eq_ok_iff, ← failsWith_parseFace, exists_eq_ok_iff]

/-! ## 3. Tables of styles -/

/-- What is wrong with an entry of the styles. -/
inductive EntryFault : String → Value → String → Prop where
  | role {key : String} {value : Value} (h : ∀ role : Role, role.key ≠ key) :
    EntryFault key value key
  | face {role : Role} {value : Value} {text : String} (h : FaceFault value text) :
    EntryFault role.key value text

/-- An entry of the styles is understood if its key is that of a role and its value stands for a
face. -/
def Understood (entry : String × Value) : Prop :=
  (∃ role : Role, role.key = entry.1) ∧ IsStyle entry.2

theorem understood_iff {entry : String × Value} :
    Understood entry ↔ ∀ text, ¬EntryFault entry.1 entry.2 text := by
  obtain ⟨key, value⟩ := entry
  constructor
  · rintro ⟨⟨role, hrole⟩, hstyle⟩ text (hnone | hfault)
    · exact hnone role hrole
    · exact isStyle_iff.1 hstyle text hfault
  · intro hnone
    by_cases hrole : ∃ role : Role, role.key = key
    · obtain ⟨role, rfl⟩ := hrole
      exact ⟨⟨role, rfl⟩, isStyle_iff.2 fun text hfault => hnone text (.face hfault)⟩
    · exact absurd (.role (not_exists.1 hrole)) (hnone key)

variable {theme next : Theme} {role : Role}

theorem exists_key_eq_iff {holds : Role → Prop} :
    (∃ other : Role, other.key = role.key ∧ holds other) ↔ holds role := by
  constructor
  · rintro ⟨other, hkey, hholds⟩
    exact Role.key_inj.1 hkey ▸ hholds
  · intro hholds
    exact ⟨role, rfl, hholds⟩

theorem entryFault_key_iff : EntryFault role.key value text ↔ FaceFault value text := by
  constructor
  · intro h
    generalize hkey : role.key = key at h
    cases h with
    | role hnone => exact absurd hkey (hnone role)
    | face hfault => exact hfault
  · exact .face

/-- One entry is followed by setting the face of its role. -/
theorem choose_cons_eq_ok_iff :
    theme.choose ((key, value) :: entries) = .ok next ↔
      ∃ role : Role, role.key = key ∧ ∃ face, Denotes value face ∧
        (theme.set role face).choose entries = .ok next := by
  rw [Theme.choose]
  cases hkey : Role.ofKey? key with
  | none =>
    refine iff_of_false nofun ?_
    rintro ⟨role, rfl, -⟩
    rw [Role.ofKey?_key] at hkey
    cases hkey
  | some role =>
    obtain rfl := Role.ofKey?_eq_some_iff.1 hkey
    simp only [exists_key_eq_iff, bind_eq_ok_iff, parseFace_eq_ok_iff]

theorem failsWith_choose_cons :
    FailsWith (theme.choose ((key, value) :: entries)) text ↔
      EntryFault key value text ∨ ∃ role : Role, role.key = key ∧ ∃ face, Denotes value face ∧
        FailsWith ((theme.set role face).choose entries) text := by
  rw [Theme.choose]
  cases hkey : Role.ofKey? key with
  | none =>
    have hnone : ∀ role : Role, role.key ≠ key := by
      intro role hrole
      rw [Role.ofKey?_eq_some_iff.2 hrole] at hkey
      cases hkey
    rw [failsWith_error]
    constructor
    · rintro rfl
      exact Or.inl (.role hnone)
    · rintro ((_ | @⟨role⟩) | ⟨role, hrole, -⟩)
      · rfl
      · exact absurd rfl (hnone role)
      · exact absurd hrole (hnone role)
  | some role =>
    obtain rfl := Role.ofKey?_eq_some_iff.1 hkey
    simp only [exists_key_eq_iff, entryFault_key_iff, failsWith_bind, failsWith_parseFace,
      parseFace_eq_ok_iff]

/-- All entries are followed exactly if each of them is understood. -/
theorem exists_choose_eq_ok_iff :
    (∃ next, theme.choose entries = .ok next) ↔ ∀ entry ∈ entries, Understood entry := by
  induction entries generalizing theme with
  | nil => exact iff_of_true ⟨theme, rfl⟩ nofun
  | cons entry entries ih =>
    obtain ⟨key, value⟩ := entry
    simp only [choose_cons_eq_ok_iff, List.forall_mem_cons]
    constructor
    · rintro ⟨next, role, hrole, face, hface, hrest⟩
      exact ⟨⟨⟨role, hrole⟩, exists_denotes_iff.1 ⟨face, hface⟩⟩, ih.1 ⟨next, hrest⟩⟩
    · rintro ⟨⟨⟨role, hrole⟩, hstyle⟩, hrest⟩
      obtain ⟨face, hface⟩ := exists_denotes_iff.2 hstyle
      obtain ⟨next, hnext⟩ := ih.2 hrest
      exact ⟨next, role, hrole, face, hface, hnext⟩

/-- The first entry that is not understood decides what is wrong. -/
theorem failsWith_choose_iff :
    FailsWith (theme.choose entries) text ↔ ∃ early key value later,
      entries = early ++ (key, value) :: later ∧ (∀ entry ∈ early, Understood entry) ∧
        EntryFault key value text := by
  -- What was chosen before the fault has no part in it, so the induction is over every theme.
  induction entries generalizing theme with
  | nil =>
    refine iff_of_false not_failsWith_ok ?_
    rintro ⟨early, key, value, later, hnil, -⟩
    exact absurd hnil (by simp)
  | cons entry entries ih =>
    obtain ⟨key, value⟩ := entry
    rw [failsWith_choose_cons]
    constructor
    · rintro (hfault | ⟨role, hrole, face, hface, hrest⟩)
      · exact ⟨[], key, value, entries, rfl, nofun, hfault⟩
      · obtain ⟨early, other, wrong, later, rfl, hearly, hfault⟩ := ih.1 hrest
        refine ⟨(key, value) :: early, other, wrong, later, rfl, ?_, hfault⟩
        exact List.forall_mem_cons.2 ⟨⟨⟨role, hrole⟩, exists_denotes_iff.1 ⟨face, hface⟩⟩, hearly⟩
    · rintro ⟨early, other, wrong, later, hsplit, hearly, hfault⟩
      cases early with
      | nil =>
        cases hsplit
        exact Or.inl hfault
      | cons entry early =>
        obtain ⟨rfl, rfl⟩ := List.cons.inj hsplit
        obtain ⟨⟨⟨role, hrole⟩, hstyle⟩, hearly⟩ := List.forall_mem_cons.1 hearly
        obtain ⟨face, hface⟩ := exists_denotes_iff.2 hstyle
        exact Or.inr
          ⟨role, hrole, face, hface, ih.2 ⟨early, other, wrong, later, rfl, hearly, hfault⟩⟩

/-- The face that an entry of the styles gives to its role; without one the role has its other face.
-/
def GivesFace (given? : Option Value) (other face : Face) : Prop :=
  match given? with
  | some value => Denotes value face
  | none => face = other

/-- Each role has the face of its own entry. What is chosen for one role changes no other. -/
theorem givesFace_of_choose (h : theme.choose entries = .ok next)
    (hdistinct : Toml.DistinctKeys entries) (role : Role) :
    GivesFace (entries.lookup role.key) (theme.face role) (next.face role) := by
  induction entries generalizing theme with
  | nil =>
    cases h
    rfl
  | cons entry entries ih =>
    obtain ⟨key, value⟩ := entry
    obtain ⟨own, rfl, face, hface, hrest⟩ := choose_cons_eq_ok_iff.1 h
    obtain ⟨hnone, hdistinct⟩ := Toml.distinctKeys_cons_iff.1 hdistinct
    have hgives := ih hrest hdistinct
    -- No later entry is for the role of this one; for any other role this one counts for nothing.
    by_cases hrole : role = own
    · subst hrole
      rw [hnone, GivesFace, Theme.face_set_self] at hgives
      rw [List.lookup_cons_self, GivesFace, hgives]
      exact hface
    · have hkey : (role.key == own.key) = false := by
        rw [beq_eq_false_iff_ne]
        exact mt Role.key_inj.1 hrole
      rw [Theme.face_set_of_ne theme hrole] at hgives
      rw [List.lookup_cons, hkey]
      exact hgives

theorem chosen_eq_nil_iff_of_choose (h : theme.choose entries = .ok next) :
    next.chosen = [] ↔ theme.chosen = [] ∧ entries = [] := by
  induction entries generalizing theme with
  | nil =>
    cases h
    simp
  | cons entry entries ih =>
    obtain ⟨role, -, face, -, hrest⟩ := choose_cons_eq_ok_iff.1 h
    rw [ih hrest]
    simp [Theme.set]

end DroolsInk
