/-
Checks on the make-up of a chart: which files it has and what its description says.
-/
import ContainerLint.Chart.Version
import ContainerLint.Rule.Chart.View

namespace ContainerLint.Chart

open ContainerLint.Text

/-- What a check finds in the description, if it could be read. -/
def inMetadata (check : Metadata → List Finding) (v : View) : List Finding :=
  match v.metadata with
  | some m => check m
  | none => []

/-- The chart has a description. -/
def missingChartFile (v : View) : List Finding :=
  findIf (v.metadata.isNone && !v.hasFile chartFile) (aboutChart "Missing Chart.yaml file")

/-- The version of the format is one that exists. -/
def badApiVersion : View → List Finding :=
  inMetadata fun m =>
    let version := if m.apiVersion.isEmpty then "unknown" else m.apiVersion
    findIf (!m.hasValidApiVersion)
      (aboutChart ("Invalid apiVersion '" ++ version ++ "'. Must be v1 or v2"))

/-- The chart has a name. -/
def missingName : View → List Finding :=
  inMetadata fun m =>
    findIf m.name.isEmpty (aboutChart "Missing required field 'name' in Chart.yaml")

/-- The chart has a version. -/
def missingVersion : View → List Finding :=
  inMetadata fun m =>
    findIf m.version.isEmpty (aboutChart "Missing required field 'version' in Chart.yaml")

/-- The chart's version has the form of one. -/
def badVersion : View → List Finding :=
  inMetadata fun m =>
    findIf (!m.version.isEmpty && !isVersion m.version)
      (aboutChart ("Version '" ++ m.version ++ "' is not valid SemVer (expected X.Y.Z format)"))

/-- A text that may be absent has no characters. -/
def isBlankText (text : Option String) : Bool :=
  (text.getD "").isEmpty

/-- The chart says what it is. -/
def missingDescription : View → List Finding :=
  inMetadata fun m =>
    findIf (isBlankText m.description) (aboutChart "Chart.yaml is missing a description")

/-- Someone looks after the chart. -/
def missingMaintainers : View → List Finding :=
  inMetadata fun m =>
    findIf m.maintainers.isEmpty (aboutChart "Chart.yaml has no maintainers listed")

/-- The chart is not out of use. -/
def deprecatedChart : View → List Finding :=
  inMetadata fun m => findIf m.deprecated (aboutChart "Chart is marked as deprecated")

/-- A chart that is no library has templates. -/
def missingTemplates (v : View) : List Finding :=
  let has := v.present.any fun f => startsWith f "templates/" || contains f "/templates/"
  findIf (!v.isLibrary && !has && v.templates.isEmpty)
    ⟨"Chart has no templates directory", ".", 1⟩

/-- The chart has values. -/
def missingValuesFile (v : View) : List Finding :=
  findIf (v.values.isNone && !v.hasFile valuesFile) ⟨"Missing values.yaml file", valuesFile, 1⟩

/-- A name of lower-case letters, digits and hyphens that starts with a letter; a line
feed may end it. -/
def isChartName (name : String) : Bool :=
  isName Char.isLower (fun c => c.isLower || c.isDigit || c == '-') (dropLineFeed name.toList)

/-- The chart's name has the form of one. -/
def badName : View → List Finding :=
  inMetadata fun m =>
    findIf (!m.name.isEmpty && !isChartName m.name)
      (aboutChart ("Chart name '" ++ m.name ++ "' contains invalid characters. " ++
        "Use only lowercase letters, numbers, and hyphens"))

/-- An address of the description is a safe one. -/
def plainAddress (label : String) (field : Metadata → Option String) : View → List Finding :=
  inMetadata fun m =>
    findIf (startsWith ((field m).getD "") "http://")
      (aboutChart (label ++ " URL should use HTTPS instead of HTTP"))

/-- No dependency is given twice. -/
def duplicateDependencies : View → List Finding :=
  inMetadata fun m =>
    let names := m.duplicateDependencies
    findIf (!names.isEmpty)
      (aboutChart ("Duplicate dependency names: " ++ joinWith ", " names))

/-- Every dependency has a field. -/
def dependencyLacks (label : String) (field : Dependency → Option String) :
    View → List Finding :=
  inMetadata fun m => m.dependencies.flatMap fun d =>
    findIf (isBlankText (field d))
      (aboutChart ("Dependency '" ++ d.name ++ "' is missing a " ++ label))

end ContainerLint.Chart
