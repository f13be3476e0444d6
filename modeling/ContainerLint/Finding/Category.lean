/-
What a rule is about, as its code tells.
-/
import ContainerLint.Text.Case
import ContainerLint.Text.Cut

namespace ContainerLint

open ContainerLint.Text

/-- What a rule is about. -/
inductive Category where
  | dockerfile
  | shell
  | chartStructure
  | values
  | template
  | security
  | bestPractice
  | other
  deriving Repr, DecidableEq

namespace Category

/-- The name of a category in reports. -/
def title : Category → String
  | .dockerfile => "Dockerfile"
  | .shell => "Shell"
  | .chartStructure => "Chart Structure"
  | .values => "Values Validation"
  | .template => "Template Syntax"
  | .security => "Security"
  | .bestPractice => "Best Practice"
  | .other => "Other"

/-- What codes of each category start with. -/
def beginnings : List (String × Category) := [
  ("HL1", .chartStructure), ("HL2", .values), ("HL3", .template), ("HL4", .security),
  ("HL5", .bestPractice), ("DL", .dockerfile), ("SC", .shell)]

/-- The category of a code, in any case. -/
def ofCode (code : String) : Category :=
  match beginnings.find? fun entry => startsWith (upper code) entry.1 with
  | some entry => entry.2
  | none => .other

end Category

end ContainerLint
