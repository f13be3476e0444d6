/-
The linting of many targets: charts and build files that are named, and those that are
found below directories that are not charts themselves.
-/
import ContainerLint.Lint.Chart
import ContainerLint.Lint.Dockerfile
import ContainerLint.Settings.Verdict

namespace ContainerLint

open ContainerLint.Text

/-! ## Discovery -/

/-- The name of a file is that of a build file. -/
def isDockerfileName (name : String) : Bool :=
  name == "Dockerfile" || startsWith name "Dockerfile." || endsWith name ".Dockerfile"

/-- The directories at and below a directory, as names from there. -/
def directoriesIn (node : FileNode) : List (List String) :=
  [] :: node.contents.filterMap fun
    | (parts, .directory _) => some parts
    | _ => none

/-- The directories of charts at and below a directory, in order. A chart is not looked
for inside of a directory for the charts that others need. -/
def chartsIn (w : Workspace) (directory : Path) (node : FileNode) : List Path :=
  let holds := (directoriesIn node).filter fun parts =>
    w.hasPath (directory.append (parts ++ [Chart.chartFile]))
  let inOrder := holds.mergeSort fun a b =>
    Path.notAfter (a ++ [Chart.chartFile]) (b ++ [Chart.chartFile])
  (inOrder.filter fun parts => !parts.dropLast.contains "charts").map directory.append

/-- The build files below a directory, in order, leaving out what the settings exclude and
what belongs to charts. -/
def dockerfilesIn (s : Settings) (w : Workspace) (directory : Path) (node : FileNode)
    (charts : List Path) : List Path :=
  node.contents.filterMap fun (parts, _) =>
    let path := directory.append parts
    if isDockerfileName (parts.getLastD "") && w.isFile path && !s.excludes path.render &&
        !charts.any (·.isAbove path)
    then some path else none

/-- The targets below a directory. -/
def discover (s : Settings) (w : Workspace) (directory : Path) : List Path :=
  match w.find directory with
  | .error _ => []
  | .ok node =>
    let charts := chartsIn w directory node
    charts ++ dockerfilesIn s w directory node charts

/-- The targets that a path stands for: those below a directory that is no chart, or
itself. -/
def targetsOf (s : Settings) (w : Workspace) (path : Path) : List Path :=
  if w.isDirectory path && !w.isFile (path.append [Chart.chartFile]) then discover s w path
  else [path]

/-! ## Results -/

/-- The reports by target. -/
abbrev Results := List (String × Report)

/-- The results with the report on a target, in the place of one that is there. -/
def putReport (target : String) (r : Report) : Results → Results
  | [] => [(target, r)]
  | (t, old) :: rest => if t == target then (t, r) :: rest else (t, old) :: putReport target r rest

/-- The results of linting targets one after the other. -/
def lintEach {α : Type} (lint : α → Except LintError Report) (label : α → String)
    (targets : List α) : Except LintError Results :=
  targets.foldlM (fun results t => return putReport (label t) (← lint t) results) []

namespace Linter

/-- The report on a target: a directory is a chart, anything else a build file. -/
def lintTarget (l : Linter) (w : Workspace) (target : Path) : Except LintError Report :=
  if w.isDirectory target then l.lintChart w target else l.lintFile w target.render

/-- The targets that paths stand for. -/
def targets (l : Linter) (w : Workspace) (paths : List Path) : List Path :=
  paths.flatMap (targetsOf l.settings w)

/-- The results for all targets that paths stand for. -/
def lintPaths (l : Linter) (w : Workspace) (paths : List Path) : Except LintError Results :=
  lintEach (l.lintTarget w) Path.render (l.targets w paths)

end Linter

/-- The totals of results. -/
structure Summary where
  targets : Nat
  filesChecked : Nat
  failures : Nat
  errors : Nat
  warnings : Nat
  parseErrors : Nat
  failingTargets : Nat
  deriving Repr, DecidableEq

/-- The totals of results under settings. -/
def Summary.ofResults (s : Settings) (results : Results) : Summary :=
  let total := fun (f : Report → Nat) => results.foldl (fun n (_, r) => n + f r) 0
  { targets := results.length
    filesChecked := total (·.filesChecked)
    failures := total (·.failures.length)
    errors := total (·.errorCount)
    warnings := total (·.warningCount)
    parseErrors := total (·.parseErrors.length)
    failingTargets := total fun r => if r.fails s then 1 else 0 }

end ContainerLint
