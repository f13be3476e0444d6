/-
The result of a run: its findings, the files that could not be read, and the
figures that decide whether the run fails.
-/
import ContainerLint.Finding.Failure

namespace ContainerLint

/-- The result of a run. -/
structure Report where
  failures : List Failure := []
  parseErrors : List String := []
  filesChecked : Nat := 0
  errorCount : Nat := 0
  warningCount : Nat := 0
  deriving Repr, DecidableEq

namespace Report

/-- The number of failures of a severity. -/
def count (fs : List Failure) (severity : Severity) : Nat :=
  fs.countP fun f => f.severity == severity

/-- The report with its failures in order. -/
def sort (r : Report) : Report :=
  { r with failures := Failure.sorted r.failures }

/-- The report with its figures brought up to date. -/
def tally (r : Report) : Report :=
  { r with
    errorCount := count r.failures .error
    warningCount := count r.failures .warning }

/-- Some failure is an error. -/
def hasErrors (r : Report) : Bool :=
  r.failures.any (·.severity == .error)

/-- The greatest severity of the failures. -/
def maxSeverity? (r : Report) : Option Severity :=
  match r.failures with
  | [] => none
  | f :: fs => some (fs.foldl (fun worst g => worst.worse g.severity) f.severity)

/-- Some failure is at least as severe as a threshold. -/
def reaches (r : Report) (threshold : Severity) : Bool :=
  r.failures.any (·.severity.atLeast threshold)

end Report

end ContainerLint
