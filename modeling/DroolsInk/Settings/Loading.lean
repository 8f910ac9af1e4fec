import DroolsInk.Files.Directory
import DroolsInk.Files.Path
import DroolsInk.Settings.Basic
import DroolsInk.Text.Utf8
import DroolsInk.Toml.Document

/-!
# Loading settings

The settings file is the one that the environment names, or else a file in the home directory; with
neither there is none. A missing file gives the default settings. It is an error if the file cannot
be read, is not TOML, or has styles that cannot be understood.
-/

namespace DroolsInk

/-- Why settings cannot be loaded. -/
inductive SettingsError where
  | unreadable (error : ReadError)
  | malformed (path : String)
  | style (error : StyleError)

/-- What is said about an error. Of a malformed file that is the path alone: where and why the text
is not TOML is left out. -/
def SettingsError.message : SettingsError → String
  | .unreadable error => error.message
  | .malformed path => "Invalid config " ++ path
  | .style error => error.message

/-- What came of loading settings. -/
structure Loading where
  path? : Option String := none
  found : Bool := false
  notices : List Notice := []
  result : Except SettingsError Settings

namespace Settings

def fileName : String := ".drlhl.toml"

/-- Where the settings file is, given the path that the environment names and the home directory. -/
def path? (named? home? : Option String) : Option String :=
  named?.or (home?.map (Path.join · fileName))

/-- Loads the settings from the bytes of a file. -/
def ofBytes (path : String) (bytes : List UInt8) : Loading :=
  let loading (notices : List Notice) (result : Except SettingsError Settings) : Loading :=
    { path? := some path, found := true, notices, result }
  match Text.decode? bytes with
  | none => loading [] (.error (.unreadable .notUtf8))
  | some text =>
    match Toml.parse? text with
    | none => loading [] (.error (.malformed path))
    | some table =>
      let (notices, result) := ofTable table
      loading notices (result.mapError .style)

/-- Loads the settings from the file at a path, if there is one. -/
def load (read : FileReader) : Option String → Loading
  | none => { result := .ok {} }
  | some path =>
    match read path with
    | .ok bytes => ofBytes path bytes
    | .error .notFound => { path? := some path, result := .ok {} }
    | .error error => { path? := some path, found := true, result := .error (.unreadable error) }

end Settings

end DroolsInk
