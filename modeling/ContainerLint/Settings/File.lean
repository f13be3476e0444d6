/-
Settings in files: reading them, and finding the file that holds for a place.
-/
import ContainerLint.Files.Workspace
import ContainerLint.Settings.Read
import ContainerLint.Yaml.Load

namespace ContainerLint

/-- Why settings cannot be read from a file. -/
inductive SettingsError where
  /-- The file cannot be opened. -/
  | access (path : Path) (e : AccessError)
  /-- The file holds bytes that are no text. -/
  | decoding (e : Text.Utf8Error)
  /-- The file is not well formed; the text is there for excerpts. -/
  | malformed (path : Path) (text : String) (e : Yaml.Error)
  /-- The file has a fault in what it holds. -/
  | fault (f : Yaml.Fault)
  /-- A number in the file has no text. -/
  | numeral (e : Text.NumeralError)
  deriving Repr, DecidableEq

/-- The wording of an error. -/
def SettingsError.message : SettingsError → String
  | .access path e => "Cannot read config file " ++ path.render ++ ": " ++ e.message path.render
  | .decoding e => e.message
  | .malformed path text e => "Invalid YAML in " ++ path.render ++ ": " ++ e.describe text.toList
  | .fault f => f.message
  | .numeral e => e.message

namespace Settings

/-- The error of a document as an error of a file of settings. -/
def errorOf (path : Path) (text : String) : Yaml.Error → SettingsError
  | .fault f => .fault f
  | e => .malformed path text e

/-- The settings in a file, with what is said of those that do not count. -/
def load (w : Workspace) (path : Path) : Except SettingsError (Settings × List SettingsWarning) :=
  match w.readText path with
  | .error (.access e _) => .error (.access path e)
  | .error (.decoding e) => .error (.decoding e)
  | .ok text =>
    match Yaml.load text with
    | .error e => .error (errorOf path text e)
    | .ok value => (ofValue value).mapError .numeral

/-- The names of files of settings, those that go first first. -/
def fileNames : List String :=
  [".lintcuro.yaml", ".lintcuro.yml", ".hadolint.yaml", ".hadolint.yml", ".helmlint.yaml"]

/-- The directory and those around it, from the inside out. -/
def directoriesOut (names : List String) : List (List String) :=
  (List.range (names.length + 1)).map fun n => names.take (names.length - n)

/-- The file of settings for a path: the first in its directory, or else in the nearest
directory around it that has one. -/
def findFile (w : Workspace) (start : Path) : Option Path :=
  match w.settle start with
  | none => none
  | some names =>
    let names := if w.isFile (w.fromTop names) then names.dropLast else names
    let candidates := (directoriesOut names).flatMap fun directory =>
      fileNames.map fun name => directory ++ [name]
    (candidates.find? fun c => w.isFile (w.fromTop c)).map w.fromTop

end Settings

end ContainerLint
