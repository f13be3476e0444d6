/-
Why a file of a chart cannot be loaded. Errors in the form of the file are the chart's
own errors, with a line where one is known; faults in what it holds, and values that
are not what a field needs, are reported as such.
-/
import ContainerLint.Yaml.Outline

namespace ContainerLint.Chart

open ContainerLint.Text

/-- Why a file of a chart cannot be loaded. -/
inductive LoadError where
  /-- The file is not well formed. -/
  | malformed (problem : String) (line : Option Nat)
  /-- The file has a fault in what it holds. -/
  | fault (f : Yaml.Fault)
  /-- A number has no text. -/
  | numeral (e : NumeralError)
  /-- A value is of the wrong kind for its use, or holds itself where it must end. -/
  | badKind (message : String)
  deriving Repr, DecidableEq

namespace LoadError

/-- The wording of an error. -/
def message : LoadError → String
  | .malformed problem (some line) => "line " ++ toString line ++ ": " ++ problem
  | .malformed problem none => problem
  | .fault f => f.message
  | .numeral e => e.message
  | .badKind message => message

/-- The error of a document as an error of the file. -/
def ofYaml (text : String) (e : Yaml.Error) : LoadError :=
  match e with
  | .fault f => .fault f
  | e =>
    let (problem, line) := e.brief text.toList
    .malformed problem line

end LoadError

end ContainerLint.Chart
