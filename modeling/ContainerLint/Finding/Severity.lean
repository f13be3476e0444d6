/-
How severe a finding is. Severities are ordered by rank: the most severe has the
least rank, and `ignore` is below all that are reported.
-/
import ContainerLint.Text.Case
import ContainerLint.Text.Cut

namespace ContainerLint

open ContainerLint.Text

/-- How severe a finding is. -/
inductive Severity where
  | error
  | warning
  | info
  | style
  /-- Not reported at all. -/
  | ignore
  deriving Repr, DecidableEq

namespace Severity

/-- The place in the order: less is more severe. -/
def rank : Severity → Nat
  | .error => 0
  | .warning => 1
  | .info => 2
  | .style => 3
  | .ignore => 4

/-- The name of a severity. -/
def label : Severity → String
  | .error => "error"
  | .warning => "warning"
  | .info => "info"
  | .style => "style"
  | .ignore => "ignore"

/-- The first is at least as severe as the second. -/
def atLeast (a b : Severity) : Bool :=
  a.rank ≤ b.rank

/-- The words for severities. -/
def words : List (String × Severity) := [
  ("error", .error), ("warning", .warning), ("warn", .warning), ("info", .info),
  ("style", .style), ("ignore", .ignore), ("none", .ignore), ("off", .ignore)]

/-- The severity that a text names, in any case, blanks around it left out. -/
def ofText? (text : String) : Option Severity :=
  words.lookup (lower (trimmed text))

/-- The more severe of two. -/
def worse (a b : Severity) : Severity :=
  if b.rank < a.rank then b else a

end Severity

end ContainerLint
