/-
Runs of the program: from its arguments and what it can see of the world to what it
prints and the number it ends with. Ends that no report tells of are errors.
-/
import ContainerLint.Cli.Screen
import ContainerLint.Settings.File

namespace ContainerLint.Cli

open ContainerLint.Text

/-- What reading the standard input gives. -/
inductive StandardInput where
  | text (s : String)
  /-- The user ends the program instead. -/
  | interrupted
  deriving Repr, DecidableEq

/-- What a run prints. -/
inductive Output where
  | screen (lines : List Line)
  | json (results : Results) (summary : Summary)
  /-- What is wrong with the arguments. -/
  | usage (message : String)
  /-- What was asked for about the program. -/
  | information (lines : List String)

/-- A run that ends: what it prints, what it warns of, and its number. -/
structure Outcome where
  exitCode : Nat
  output : Output
  warnings : List SettingsWarning := []

/-- An end that no report tells of. -/
inductive RunError where
  | settings (e : SettingsError)
  | lint (e : LintError)
  | markup (e : MarkupError)
  /-- The user has ended the program, after some lines and warnings. -/
  | interrupted (lines : List Line) (warnings : List SettingsWarning)

/-- The wording of an error. -/
def RunError.message : RunError → String
  | .settings e => e.message
  | .lint e => e.message
  | .markup e => e.message
  | .interrupted .. => ""

/-! ## Settings -/

/-- What is wrong with the settings, for a report to tell. -/
inductive ConfigError where
  | file (e : SettingsError)
  | threshold (text : String)
  deriving Repr, DecidableEq

/-- The wording of an error. -/
def ConfigError.message : ConfigError → String
  | .file e => e.message
  | .threshold text => "Unknown threshold '" ++ text ++ "'"

/-- The option is given and not empty. -/
def given? (text : Option String) : Option String :=
  text.filter (!·.isEmpty)

/-- The file with the settings for a request: the one it names, or one that is found. -/
def LintRequest.settingsFile? (r : LintRequest) (w : Workspace) : Option Path :=
  match given? r.config with
  | some path => some (Path.ofText path)
  | none =>
    let start := r.paths.headD "."
    Settings.findFile w (Path.ofText (if start == "-" then "." else start))

/-- The codes in the values of an option, divided by commas. -/
def codesIn (values : List String) : List String :=
  (values.flatMap fun value => (splitAtChar ',' value.toList).map trim).filterMap fun cs =>
    if cs.isEmpty then none else some (String.ofList cs)

/-- The settings with what a request adds to them. -/
def LintRequest.refine (r : LintRequest) (s : Settings) : Except ConfigError Settings := do
  let threshold ← match given? r.threshold with
    | none => .ok s.threshold
    | some text =>
      match Settings.severity? (.text text) with
      | some level => .ok level
      | none => .error (.threshold text)
  let s := s.setLevels (codesIn r.ignored) .ignore
  return { s with
    threshold := threshold
    noFail := s.noFail || r.noFail
    fixableOnly := s.fixableOnly || r.fixableOnly
    strict := s.strict || r.strict
    debug := s.debug || r.debug }

/-- The settings in the file for a request, or those of no file. -/
def LintRequest.load (r : LintRequest) (w : Workspace) :
    Except SettingsError (Settings × List SettingsWarning) :=
  match r.settingsFile? w with
  | some path => Settings.load w path
  | none => .ok ({}, [])

/-! ## Linting -/

/-- The name of the standard input in reports. -/
def inputName : String := "<stdin>"

/-- The results for build files, a hyphen being the standard input, of which nothing is
left after the first reading. -/
def lintDockerfiles (l : Linter) (w : Workspace) :
    StandardInput → List String → Results → Except RunError Results
  | _, [], results => .ok results
  | input, target :: rest, results =>
    if target == "-" then
      match input with
      | .interrupted => .error (.interrupted [] [])
      | .text s =>
        match l.lintDockerfile s inputName with
        | .error e => .error (.lint e)
        | .ok r => lintDockerfiles l w (.text "") rest (putReport inputName r results)
    else
      match l.lintFile w target with
      | .error e => .error (.lint e)
      | .ok r => lintDockerfiles l w input rest (putReport target r results)

/-- The results for a request. -/
def LintRequest.lint (r : LintRequest) (l : Linter) (w : Workspace) (input : StandardInput) :
    Except RunError Results :=
  match r.command with
  | .docker => lintDockerfiles l w input r.paths []
  | .helm =>
    (lintEach (fun target => l.lintChart w (Path.ofText target)) id r.paths).mapError .lint
  | .scan => (l.lintPaths w (r.paths.map Path.ofText)).mapError .lint

/-- The run fails: a report does, or tells of something that could not be read. -/
def failed (s : Settings) (results : Results) : Bool :=
  results.any fun (_, r) => r.fails s || (!r.parseErrors.isEmpty && !s.noFail)

/-- The lines on results. -/
def resultsLines (s : Settings) (results : Results) : Except MarkupError (List Line) := do
  let worthTelling := results.filter fun (_, r) =>
    !s.quiet || !r.failures.isEmpty || !r.parseErrors.isEmpty
  let lines ← worthTelling.mapM fun (target, r) => resultLines target r
  return lines.flatten

/-- Lints as requested, under settings. -/
def LintRequest.runWith (r : LintRequest) (w : Workspace) (input : StandardInput)
    (s : Settings) : Except RunError (Nat × Output) := do
  let head := if r.json || s.quiet then [] else header r.command.title
  let results ← match r.lint { settings := s } w input with
    | .error (.interrupted ..) => .error (.interrupted head [])
    | other => other
  let summary := Summary.ofResults s results
  let exitCode := if failed s results then 1 else 0
  if r.json then return (exitCode, .json results summary)
  let lines ← (resultsLines s results).mapError .markup
  return (exitCode, .screen (head ++ lines ++ if s.quiet then [] else summaryLines summary))

/-- What is printed about wrong settings. -/
def configErrorOutput (e : ConfigError) : Except RunError Outcome := do
  let text := "[bold red]Config error:[/bold red] " ++ escape e.message
  let lines ← (textLines text).mapError .markup
  return { exitCode := 2, output := .screen lines }

/-- Lints as requested. -/
def LintRequest.run (r : LintRequest) (w : Workspace) (input : StandardInput) :
    Except RunError Outcome :=
  match r.load w with
  | .error (.access path e) => configErrorOutput (.file (.access path e))
  | .error (.malformed path text e) => configErrorOutput (.file (.malformed path text e))
  | .error e => .error (.settings e)
  | .ok (s, warnings) =>
    match r.refine s with
    | .error e => do return { ← configErrorOutput e with warnings := warnings }
    | .ok s =>
      match r.runWith w input s with
      | .error (.interrupted lines _) => .error (.interrupted lines warnings)
      | .error e => .error e
      | .ok (exitCode, output) =>
        .ok { exitCode := exitCode, output := output, warnings := warnings }

/-! ## Running -/

/-- Does what a request asks for. -/
def Request.run (w : Workspace) (input : StandardInput) : Request → Except RunError Outcome
  | .overview => .ok { exitCode := 0, output := .screen (header "Dockerfile & Helm Linter") }
  | .rules => do
    let lines ← (ruleLines .bundled).mapError .markup
    return { exitCode := 0, output := .screen lines }
  | .lint r => r.run w input

/-- Runs the program on arguments. -/
def run (w : Workspace) (input : StandardInput) (args : List String) : Except RunError Outcome :=
  match readRequest args with
  | .error (.usage command e) =>
    .ok { exitCode := 2, output := .usage (usageMessage command e) }
  | .error (.help command) => .ok { exitCode := 0, output := .information (helpLines command) }
  | .error .version => .ok { exitCode := 0, output := .information [versionMessage] }
  | .ok request => request.run w input

/-- Runs the program on arguments, and reports if the user ends it. -/
def runGuarded (w : Workspace) (input : StandardInput) (args : List String) :
    Except RunError Outcome :=
  match run w input args with
  | .error (.interrupted lines warnings) =>
    .ok {
      exitCode := 130
      output := .screen (lines ++ [.text "Terminated by user."])
      warnings := warnings }
  | other => other

end ContainerLint.Cli
