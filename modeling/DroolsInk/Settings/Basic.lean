import DroolsInk.Theme.Basic
import DroolsInk.Toml.Printer

/-!
# Settings

The settings say whether to use color, how wide a tab is, and in which faces to show the roles. A
settings file is a TOML table with the keys `color`, `tab-width` and `styles`, and the last of
these is a table from the keys of roles to faces. A face is the name of its foreground color, or a
table with two color names and three flags; in such a table an entry of the wrong type counts as
missing.

The keys of both tables are visited in their order. A face that cannot be understood is an error,
the first one that is met. A key that is not known, or a wrong type for `color` or `tab-width`, only
gives a notice. So an error is decided by `styles` alone, and the notices before it are those about
smaller keys.
-/

namespace DroolsInk

/-- What a user can choose. -/
structure Settings where
  color : Bool := true
  tabWidth : Nat := 4
  theme : Theme := .builtin
  deriving DecidableEq, Repr

/-- Why faces cannot be understood. -/
inductive StyleError where
  | notATable
  | unknownRole (key : String)
  | unknownColor (word : String)
  | notAFace (value : Toml.Value)

/-- What the message of a style error tells about it. -/
def StyleError.detail : StyleError → String
  | .notATable => "styles must be a table"
  | .unknownRole key => key
  | .unknownColor word => word
  | .notAFace value => String.ofList value.render

def StyleError.message (error : StyleError) : String := "Unknown style: " ++ error.detail

/-- Something in a settings file that has no effect. -/
inductive Notice where
  | notBoolean (value : Toml.Value)
  | notInteger (value : Toml.Value)
  | unknownKey (key : String)

def parseColor (word : String) : Except StyleError Color :=
  match Color.ofName? word with
  | some color => .ok color
  | none => .error (.unknownColor word)

def parseFace : Toml.Value → Except StyleError Face
  | .string word => return .ofColor (← parseColor word)
  | .table entries => do
    let color (key : String) : Except StyleError Color :=
      match (entries.lookup key).bind Toml.Value.asString? with
      | some word => parseColor word
      | none => .ok .default
    let flag (key : String) : Bool :=
      ((entries.lookup key).bind Toml.Value.asBoolean?).getD false
    return {
      foreground := ← color "fg"
      background := ← color "bg"
      bold := flag "bold"
      italic := flag "italic"
      underline := flag "underline" }
  | value => .error (.notAFace value)

/-- Chooses the faces of a table of styles, entry by entry. -/
def Theme.choose (theme : Theme) : List (String × Toml.Value) → Except StyleError Theme
  | [] => .ok theme
  | (key, value) :: rest =>
    match Role.ofKey? key with
    | none => .error (.unknownRole key)
    | some role => do (theme.set role (← parseFace value)).choose rest

namespace Settings

def tabWidthBounds : Int × Int := (1, 16)

/-- The tab width nearest to a number. -/
def clampTabWidth (number : Int) : Nat :=
  (max tabWidthBounds.1 (min tabWidthBounds.2 number)).toNat

/-- Follows one entry of a settings table. It may give a notice. -/
def follow (visit : Toml.Visit) (settings : Settings) (key : String) (value : Toml.Value) :
    Except StyleError (Settings × Option Notice) :=
  if key = "color" then
    match value.asBoolean? with
    | some color => .ok ({ settings with color }, none)
    | none => .ok (settings, some (.notBoolean value))
  else if key = "tab-width" then
    match value.asInteger? with
    | some number => .ok ({ settings with tabWidth := clampTabWidth number }, none)
    | none => .ok (settings, some (.notInteger value))
  else if key = "styles" then
    match value.asTable? with
    | none => .error .notATable
    | some styles => do
      let theme ← settings.theme.choose (visit.entries styles)
      return ({ settings with theme }, none)
  else .ok (settings, some (.unknownKey key))

/-- Follows entries in turn. Gives the notices up to the end or to an error. -/
def followAll (visit : Toml.Visit) (settings : Settings) :
    List (String × Toml.Value) → List Notice × Except StyleError Settings
  | [] => ([], .ok settings)
  | (key, value) :: rest =>
    match settings.follow visit key value with
    | .error error => ([], .error error)
    | .ok (settings, notice?) =>
      let (notices, result) := settings.followAll visit rest
      (notice?.toList ++ notices, result)

/-- The settings that a table describes, with the notices about it, if its entries and those of its
styles are visited in a certain order. -/
def ofTableBy (visit : Toml.Visit) (table : Toml.Table) :
    List Notice × Except StyleError Settings :=
  ({} : Settings).followAll visit (visit.entries table)

/-- The settings that a table describes, with the notices about it. -/
def ofTable (table : Toml.Table) : List Notice × Except StyleError Settings :=
  ofTableBy .byKey table

end Settings

end DroolsInk
