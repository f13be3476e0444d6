/-
The description of a chart: who maintains it, what it depends on, and which version
it is. Fields that are missing are empty; fields that hold another kind of value
than text are read as the text of that value.
-/
import ContainerLint.Chart.Error

namespace ContainerLint.Chart

open ContainerLint.Text

/-- Another chart that a chart depends on. -/
structure Dependency where
  name : String
  version : Option String
  repository : Option String
  condition : Option String
  tags : List String
  importValues : List Value
  /-- The name the dependency goes by in the chart. -/
  localName : Option String
  deriving Repr

/-- A person or group that looks after a chart. -/
structure Maintainer where
  name : String
  email : Option String
  url : Option String
  deriving Repr, DecidableEq

/-- The description of a chart. -/
structure Metadata where
  apiVersion : String
  name : String
  version : String
  kubeVersion : Option String
  description : Option String
  kind : String
  keywords : List String
  home : Option String
  sources : List String
  dependencies : List Dependency
  maintainers : List Maintainer
  icon : Option String
  appVersion : Option String
  deprecated : Bool
  annotations : List (String × String)
  deriving Repr

namespace Metadata

/-! ## Fields -/

/-- The values that a value holds, if it holds any: the items of a list, the keys of a
mapping, the characters of a text. -/
def itemsOf (v : Value) : Except LoadError (List Value) :=
  match v.opened with
  | .list items => .ok items
  | .tuple items => .ok items
  | .set items => .ok items
  | .orderedSet items => .ok items
  | .map entries => .ok (entries.map (·.1))
  | .ordered entries => .ok (entries.map (·.1))
  | .frozen entries => .ok (entries.map (·.1))
  | .text s => .ok (s.toList.map fun c => .text (String.ofList [c]))
  | .bytes bs => .ok (bs.map fun b => .int b.toNat)
  | v =>
    let kind := match v with
      | .date _ => "datetime.date"
      | .moment _ => "datetime.datetime"
      | v => v.kindName
    .error (.badKind (quoted kind ++ " object is not iterable"))

/-- The values of a field that may be left out or empty. -/
def fieldItems (v : Value) : Except LoadError (List Value) :=
  if v.isTrue then itemsOf v else .ok []

/-- The text of a value. -/
def textOf (v : Value) : Except LoadError String :=
  v.plain.mapError .numeral

/-- The text of a field, if there is one. -/
def textAt? (data : Value) (key : String) : Except LoadError (Option String) :=
  (data.getD key).plain?.mapError .numeral

/-- A field that must be a text: the default if it is missing, empty, zero or false. -/
def required (data : Value) (key default : String) : Except LoadError String :=
  let v := data.getD key
  if v.isTrue then textOf v else .ok default

/-- The name of an entry: empty only if it is missing. -/
def nameOf (v : Value) : Except LoadError String :=
  match v.get? "name" with
  | some name => textOf name
  | none => .ok ""

/-- The texts of the list in a field; another kind of value has none. -/
def textsAt (data : Value) (key : String) : Except LoadError (List String) :=
  match (data.getD key).items? with
  | some items => (items.filter (!·.isNull)).mapM textOf
  | none => .ok []

/-- The entries with a text put under a key. -/
def putText (key text : String) : List (String × String) → List (String × String)
  | [] => [(key, text)]
  | (k, t) :: entries =>
    if k == key then (k, text) :: entries else (k, t) :: putText key text entries

/-- The entries of a mapping as texts; another kind of value has none. -/
def textEntries (v : Value) : Except LoadError (List (String × String)) :=
  match v.entries? with
  | some entries =>
    entries.foldlM (fun built (k, v) => return putText (← textOf k) (← textOf v) built) []
  | none => .ok []

/-- A dependency. Entries that are not mappings are none, and are written out when they are
left out. -/
def dependency? (v : Value) : Except LoadError (Option Dependency) :=
  if v.isMap then do
    return some {
      name := ← nameOf v
      version := ← textAt? v "version"
      repository := ← textAt? v "repository"
      condition := ← textAt? v "condition"
      tags := ← textsAt v "tags"
      importValues := ← fieldItems (v.getD "import-values")
      localName := ← textAt? v "alias" }
  else do
    let _ ← v.shown.mapError LoadError.numeral
    return none

/-- A maintainer; entries that are not mappings are none. -/
def maintainer? (v : Value) : Except LoadError (Option Maintainer) :=
  if v.isMap then do
    return some ⟨← nameOf v, ← textAt? v "email", ← textAt? v "url"⟩
  else .ok none

/-! ## The whole -/

/-- The description in a document that is a mapping. -/
def ofValue (data : Value) : Except LoadError Metadata := do
  let dependencies ← (← fieldItems (data.getD "dependencies")).mapM dependency?
  let maintainers ← (← fieldItems (data.getD "maintainers")).mapM maintainer?
  return {
    apiVersion := ← required data "apiVersion" ""
    name := ← required data "name" ""
    version := ← required data "version" ""
    kubeVersion := ← textAt? data "kubeVersion"
    description := ← textAt? data "description"
    kind := ← required data "type" "application"
    keywords := ← textsAt data "keywords"
    home := ← textAt? data "home"
    sources := ← textsAt data "sources"
    dependencies := dependencies.filterMap id
    maintainers := maintainers.filterMap id
    icon := ← textAt? data "icon"
    appVersion := ← textAt? data "appVersion"
    deprecated := (data.getD "deprecated").isTrue
    annotations := ← textEntries (data.getD "annotations") }

/-- The description in the text of a file. An empty file describes an empty chart. -/
def ofText (text : String) : Except LoadError Metadata :=
  match Yaml.load text with
  | .error e => .error (LoadError.ofYaml text e)
  | .ok v =>
    if v.isNull then ofValue (.map [])
    else if v.isMap then ofValue v
    else .error (.malformed "Chart.yaml must contain a mapping" (some 1))

/-! ## Questions -/

/-- The version of the format is one that exists. -/
def hasValidApiVersion (m : Metadata) : Bool :=
  m.apiVersion == "v1" || m.apiVersion == "v2"

/-- The chart only serves other charts. -/
def isLibrary (m : Metadata) : Bool :=
  m.kind == "library"

/-- The names that occur again, each once, in the order in which they do. -/
def repeated : List String → List String → List String → List String
  | _, found, [] => found
  | seen, found, name :: rest =>
    let found := if seen.contains name && !found.contains name then found ++ [name] else found
    repeated (name :: seen) found rest

/-- The names of the dependencies that are given more than once. -/
def duplicateDependencies (m : Metadata) : List String :=
  repeated [] [] (m.dependencies.map (·.name))

end Metadata

end ContainerLint.Chart
