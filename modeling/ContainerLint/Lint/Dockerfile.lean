/-
The linting of build files. All rules meet an instruction before any meets the next,
so of several errors the one at the earliest instruction stops the run.
-/
import ContainerLint.Dockerfile.Parser
import ContainerLint.Lint.Basic
import ContainerLint.Pragma.Dockerfile

namespace ContainerLint.Linter

open ContainerLint.Dockerfile

/-- The runs of the rules that go from node to node. -/
def nodeRuns (l : Linter) (nodes : List (Nat × Node)) : List (RuleInfo × Except Stop Trace) :=
  l.catalogue.rules.filterMap fun r =>
    match r.check with
    | .nodes run => if l.isActive r then some (r.toRuleInfo, run (l.optionsOf r) nodes) else none
    | _ => none

/-- The error at the earliest node, and of those the first. -/
def firstStop? : List (RuleInfo × Except Stop Trace) → Option Stop
  | [] => none
  | (_, .ok _) :: rest => firstStop? rest
  | (_, .error stop) :: rest =>
    match firstStop? rest with
    | some later => if later.passed < stop.passed then some later else some stop
    | none => some stop

/-- The failures of a run. -/
def runFailures (path : String) : RuleInfo × Except Stop Trace → List Failure
  | (info, .ok t) => t.notes.map (info.failure path)
  | (_, .error _) => []

/-- The failures of the rules that go from node to node. -/
def nodeFailures (l : Linter) (path : String) (nodes : List (Nat × Node)) :
    Except RuleError (List Failure) :=
  let runs := l.nodeRuns nodes
  match firstStop? runs with
  | some stop => .error stop.error
  | none => .ok (runs.flatMap (runFailures path))

/-- The failures of the rules that see the build file as a whole. -/
def buildFileFailures (l : Linter) (path : String) (entries : List Positioned) : List Failure :=
  l.catalogue.rules.flatMap fun r =>
    match r.check with
    | .buildFile check =>
      if l.isActive r then check r.toRuleInfo (l.optionsOf r) path entries else []
    | _ => []

/-- The report on the instructions of a build file. -/
def lintEntries (l : Linter) (path : String) (entries : List Positioned) :
    Except RuleError Report := do
  let pragmas := l.settings.heeded (Pragmas.ofDockerfile entries)
  if pragmas.disabled then return { filesChecked := 1 }
  let found ← l.nodeFailures path (Node.ofEntries pragmas.isPosix entries)
  return l.conclude { filesChecked := 1 } (fun _ => pragmas)
    (found ++ l.buildFileFailures path entries)

/-- The report on the text of a build file. -/
def lintDockerfile (l : Linter) (text path : String) : Except LintError Report :=
  match Dockerfile.parse text with
  | .error (.numeral e) => .error (.numeral e)
  | .error e => .ok { parseErrors := [path ++ ": " ++ e.message], filesChecked := 1 }
  | .ok entries => (l.lintEntries path entries).mapError .rule

/-- The report on a build file. -/
def lintFile (l : Linter) (w : Workspace) (path : String) : Except LintError Report :=
  if l.settings.excludes path then .ok {}
  else match w.readText (Path.ofText path) with
    | .error e => .ok { parseErrors := [unreadable path e] }
    | .ok text => l.lintDockerfile text path

end ContainerLint.Linter
