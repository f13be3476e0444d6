/-
What runs of the linter share: the rules, the settings, what may stop a run, and which
failures of the rules are reported.
-/
import ContainerLint.Chart.Error
import ContainerLint.Files.Workspace
import ContainerLint.Finding.Report
import ContainerLint.Pragma.State
import ContainerLint.Rule.Bundled
import ContainerLint.Settings.Basic

namespace ContainerLint

open ContainerLint.Text

/-- What stops a run. -/
inductive LintError where
  /-- A number in a build file is none. -/
  | numeral (e : NumeralError)
  /-- A rule cannot be carried through. -/
  | rule (e : RuleError)
  /-- A file of a chart has a value that cannot be read. -/
  | chart (e : Chart.LoadError)
  deriving Repr, DecidableEq

/-- The wording of an error. -/
def LintError.message : LintError → String
  | .numeral e => e.message
  | .rule e => e.message
  | .chart e => e.message

/-- The settings report failures of a severity. -/
def Settings.admits (s : Settings) (severity : Severity) : Bool :=
  severity != .ignore && severity.atLeast s.threshold

/-- The failure as the settings report it, if they do. -/
def Settings.reported? (s : Settings) (f : Failure) : Option Failure :=
  let severity := s.severityOf f.code f.severity
  if s.disables f.code || !s.admits severity || (s.fixableOnly && !f.fixable) then none
  else some (f.withSeverity severity)

/-- The pragmas switch a failure off, if the settings heed pragmas. -/
def Settings.heeds (s : Settings) (p : Pragmas) (f : Failure) : Bool :=
  !s.ignorePragmas && p.ignores f.code f.line

/-- The pragmas that the settings heed. -/
def Settings.heeded (s : Settings) (p : Pragmas) : Pragmas :=
  if s.ignorePragmas then Pragmas.none else p

/-- A linter: the rules and the settings. -/
structure Linter where
  catalogue : Catalogue := Catalogue.bundled
  settings : Settings := {}

namespace Linter

/-- The failures that are reported, given the pragmas for each. -/
def reported (l : Linter) (pragmas : Failure → Pragmas) (failures : List Failure) :
    List Failure :=
  failures.filterMap fun f =>
    if l.settings.heeds (pragmas f) f then none else l.settings.reported? f

/-- The rule is not switched off. -/
def isActive (l : Linter) (r : Rule) : Bool :=
  !l.settings.disables r.code

/-- The options of a rule. -/
def optionsOf (l : Linter) (r : Rule) : RuleOptions :=
  l.settings.optionsOf r.code

/-- The report of the failures that are reported. -/
def conclude (l : Linter) (r : Report) (pragmas : Failure → Pragmas) (failures : List Failure) :
    Report :=
  { r with failures := l.reported pragmas failures }.sort.tally

end Linter

/-- What is said of a file that cannot be read. -/
def unreadable (path : String) (e : ReadError) : String :=
  "Failed to read file: " ++ path ++ ": " ++ e.message

end ContainerLint
