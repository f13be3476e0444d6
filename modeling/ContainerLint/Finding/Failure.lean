/-
One finding: the rule that makes it, where, and what it says. Findings are ordered
by file, then line, severity, code and message.
-/
import ContainerLint.Finding.Category
import ContainerLint.Finding.Severity

namespace ContainerLint

/-- A violation of a rule. -/
structure Failure where
  code : String
  severity : Severity
  message : String
  file : String
  line : Int
  column : Option Int := none
  fixable : Bool := false
  deriving Repr, DecidableEq

namespace Failure

/-- What the failure is about. -/
def category (f : Failure) : Category :=
  Category.ofCode f.code

/-- The failure at another severity. -/
def withSeverity (f : Failure) (severity : Severity) : Failure :=
  { f with severity := severity }

/-- The order of two parts, and of the rest if the parts are the same. -/
def orElse {α : Type} [LT α] [DecidableEq α] [DecidableLT α] (a b : α) (rest : Bool) : Bool :=
  if a < b then true else if a = b then rest else false

/-- The first failure comes before the second. -/
def before (a b : Failure) : Bool :=
  orElse a.file b.file <|
  orElse a.line b.line <|
  orElse a.severity.rank b.severity.rank <|
  orElse a.code b.code <|
  decide (a.message < b.message)

/-- The first failure may stand before the second. -/
def notAfter (a b : Failure) : Bool :=
  !b.before a

/-- The failures in order; those that tie keep theirs. -/
def sorted (fs : List Failure) : List Failure :=
  fs.mergeSort notAfter

end Failure

end ContainerLint
