/-
What checks of charts see: the chart's description and values, where they could be
read, its templates and helpers, and the names of its files.
-/
import ContainerLint.Chart.Helper
import ContainerLint.Chart.Metadata
import ContainerLint.Chart.Values
import ContainerLint.Rule.Basic
import ContainerLint.Template.Document
import ContainerLint.Text.Order

namespace ContainerLint.Chart

open ContainerLint.Text ContainerLint.Template

/-- The name of the file that describes a chart. -/
def chartFile : String := "Chart.yaml"

/-- The name of the file with the values of a chart. -/
def valuesFile : String := "values.yaml"

/-- The endings of the names of templates. -/
def templateEndings : List String := [".yaml", ".yml", ".tpl", ".txt"]

/-- A chart as a check sees it. -/
structure View where
  metadata : Option Metadata
  values : Option Values
  templates : List Document
  helpers : Option HelperFile
  /-- The files that are checked, as paths inside the chart. -/
  files : List String
  /-- The files that are there but left out. -/
  excluded : List String
  deriving Repr

namespace View

/-- The files that are there. -/
def present (v : View) : List String :=
  v.files ++ v.excluded

/-- A file of the given name is there, in any directory. -/
def hasFile (v : View) (name : String) : Bool :=
  v.present.any fun f => f == name || endsWith f ("/" ++ name)

/-- The values that templates refer to. -/
def valueReferences (v : View) : List String :=
  distinct (v.templates.flatMap Document.valuesReferences)

/-- The names that templates define, and those of the helpers. -/
def definedNames (v : View) : List String :=
  ((v.helpers.map HelperFile.names).getD []) ++ v.templates.flatMap Document.definedNames

/-- The names that templates refer to. -/
def referencedNames (v : View) : List String :=
  distinct (v.templates.flatMap Document.referencedNames)

/-- The chart only serves other charts. -/
def isLibrary (v : View) : Bool :=
  v.metadata.any Metadata.isLibrary

end View

/-- What a check of charts finds. -/
structure Finding where
  message : String
  file : String
  line : Nat
  deriving Repr, DecidableEq

/-- A finding about the file that describes the chart. -/
def aboutChart (message : String) : Finding :=
  ⟨message, chartFile, 1⟩

/-- A finding if a condition holds. -/
def findIf (condition : Bool) (f : Finding) : List Finding :=
  if condition then [f] else []

end ContainerLint.Chart
