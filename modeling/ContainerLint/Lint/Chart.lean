/-
The linting of charts. The files of a chart are those below its directory, without
links and without what belongs to others; each file that is read has pragmas of its
own, and those for whole files hold for the whole chart.
-/
import ContainerLint.Chart.Helper
import ContainerLint.Chart.Metadata
import ContainerLint.Chart.Values
import ContainerLint.Lint.Basic
import ContainerLint.Pragma.Chart

namespace ContainerLint.Chart

open ContainerLint.Text
open ContainerLint.Template

/-! ## The files of a chart -/

/-- The directories whose files are not those of the chart around them. -/
def skippedDirectories : List String := [".git", "charts", "node_modules", "__pycache__"]

/-- A file of a chart, by its path inside the chart. -/
structure SourceFile where
  parts : List String
  bytes : List UInt8
  deriving Repr, DecidableEq

/-- The path of a file inside its chart. -/
def SourceFile.name (f : SourceFile) : String :=
  joinWith "/" f.parts

/-- A file that a chart owns. -/
def ownFile? : List String × FileNode → Option SourceFile
  | (parts, .file bytes) =>
    if parts.dropLast.any skippedDirectories.contains then none else some ⟨parts, bytes⟩
  | _ => none

/-- The files that a chart owns, in order. -/
def ownFiles (chart : FileNode) : List SourceFile :=
  chart.contents.filterMap ownFile?

/-- The settings leave a file of a chart out, by its path in the chart or from outside. -/
def isExcluded (s : Settings) (root : Path) (f : SourceFile) : Bool :=
  s.excludes f.name || s.excludes (root.append f.parts).render

/-! ## Reading -/

/-- What reading some files gives: contents, pragmas by file, errors, and how many files
were read. -/
structure Reading (α : Type) where
  contents : List α := []
  pragmas : List (String × Pragmas) := []
  errors : List String := []
  count : Nat := 0

/-- What reading one file gives, `read` giving contents, pragmas and errors of its text. -/
def readFile {α ε : Type} (root : Path) (f : SourceFile)
    (read : String → Except ε (List α × Pragmas × List String)) : Except ε (Reading α) :=
  match fileText f.bytes with
  | .error e => .ok { errors := [unreadable (root.append f.parts).render (.decoding e)] }
  | .ok text => do
    let (contents, pragmas, errors) ← read text
    return ⟨contents, [(f.name, pragmas)], errors, 1⟩

/-- Reads a file of structured text. -/
def readStructured {α : Type} (s : Settings) (root : Path) (load : String → Except LoadError α)
    (f : SourceFile) : Except LoadError (Reading α) :=
  readFile root f fun text =>
    let pragmas := s.heeded (Pragmas.ofChartText text)
    match load text with
    | .ok a => .ok ([a], pragmas, [])
    | .error (.malformed problem line) =>
      .ok ([], pragmas, [f.name ++ ": " ++ (LoadError.malformed problem line).message])
    | .error e => .error e

/-- Reads the file of a name, if there is one. -/
def readNamed {α : Type} (s : Settings) (root : Path) (load : String → Except LoadError α)
    (name : String) (files : List SourceFile) : Except LoadError (Reading α) :=
  match files.find? fun f => f.name == name with
  | none => .ok {}
  | some f => readStructured s root load f

/-- The file is a template. -/
def isTemplate (f : SourceFile) : Bool :=
  startsWith f.name "templates/" && templateEndings.any (endsWith f.name)

/-- Reads a template; its text is kept for helpers. -/
def readTemplate (s : Settings) (root : Path) (f : SourceFile) :
    Except LoadError (Reading (Document × String)) :=
  readFile root f fun text =>
    let template := Document.ofText text f.name
    .ok ([(template, text)], s.heeded (Pragmas.ofTokens text template.tokens), [])

/-- What reading files one after the other gives. -/
def Reading.append {α : Type} (a b : Reading α) : Reading α :=
  ⟨a.contents ++ b.contents, a.pragmas ++ b.pragmas, a.errors ++ b.errors, a.count + b.count⟩

/-- Reads all templates. -/
def readTemplates (s : Settings) (root : Path) :
    List SourceFile → Except LoadError (Reading (Document × String))
  | [] => .ok {}
  | f :: rest => do
    let first ← if isTemplate f then readTemplate s root f else .ok {}
    return first.append (← readTemplates s root rest)

/-- The name of a file says that it holds helpers. -/
def isHelperName (path : String) : Bool :=
  contains (String.ofList (Settings.baseName path.toList)) "_helpers"

/-- The first template whose name says that it holds helpers. -/
def helpersIn (templates : List (Document × String)) : Option HelperFile :=
  (templates.find? fun (t, _) => isHelperName t.path).map fun (t, text) =>
    HelperFile.ofText text t.path

/-- A chart that has been read. -/
structure Source where
  view : View
  pragmas : List (String × Pragmas)
  errors : List String
  count : Nat

/-- Reads a chart. -/
def readSource (s : Settings) (root : Path) (chart : FileNode) : Except LoadError Source := do
  let (excluded, files) := (ownFiles chart).partition (isExcluded s root)
  let metadata ← readNamed s root Metadata.ofText chartFile files
  let values ← readNamed s root Values.ofText valuesFile files
  let templates ← readTemplates s root files
  return {
    view := {
      metadata := metadata.contents.head?
      values := values.contents.head?
      templates := templates.contents.map (·.1)
      helpers := helpersIn templates.contents
      files := files.map SourceFile.name
      excluded := excluded.map SourceFile.name }
    pragmas := metadata.pragmas ++ values.pragmas ++ templates.pragmas
    errors := metadata.errors ++ values.errors ++ templates.errors
    count := metadata.count + values.count + templates.count }

/-- What pragmas for whole files switch off in the chart. -/
def Source.widePragmas (c : Source) : Pragmas :=
  c.pragmas.foldl (fun all (_, p) => all.merge p.fileLevel) Pragmas.none

/-- The pragmas for a failure: those for the chart, and those of its file. -/
def Source.pragmasFor (c : Source) (f : Failure) : Pragmas :=
  match c.pragmas.lookup f.file with
  | some p => c.widePragmas.merge p
  | none => c.widePragmas

end ContainerLint.Chart

namespace ContainerLint.Linter

open ContainerLint.Chart

/-! ## Rules -/

/-- The failures of the rules that see the chart as a whole. -/
def chartFailures (l : Linter) (view : View) : Except RuleError (List Failure) := do
  let found ← l.catalogue.rules.mapM fun r =>
    match r.check with
    | .chart check => if l.isActive r then check r.toRuleInfo (l.optionsOf r) view else .ok []
    | _ => .ok []
  return found.flatten

/-- The failures of the rules that go from token to token, in one template. -/
def templateFailures (l : Linter) (t : Template.Document) : Except RuleError (List Failure) := do
  let tokens := t.tokens.map fun token => (token.line, token)
  let found ← l.catalogue.rules.mapM fun r =>
    match r.check with
    | .tokens run =>
      if l.isActive r then
        match run (l.optionsOf r) tokens with
        | .ok trace => .ok (trace.notes.map (r.toRuleInfo.failure t.path))
        | .error stop => .error stop.error
      else .ok []
    | _ => .ok []
  return found.flatten

/-- The failures of all rules. -/
def sourceFailures (l : Linter) (view : View) : Except RuleError (List Failure) := do
  let whole ← l.chartFailures view
  let streamed ← view.templates.mapM l.templateFailures
  return whole ++ streamed.flatten

/-- The report on a chart that has been read. -/
def lintSource (l : Linter) (c : Source) : Except RuleError Report := do
  let report : Report := { parseErrors := c.errors, filesChecked := c.count }
  if c.widePragmas.disabled then return report
  return l.conclude report c.pragmasFor (← l.sourceFailures c.view)

/-- The report on a chart, given its directory and the path of that. -/
def lintTree (l : Linter) (root : Path) (chart : FileNode) : Except LintError Report :=
  match readSource l.settings root chart with
  | .error e => .error (.chart e)
  | .ok c => (l.lintSource c).mapError .rule

/-- The report on the chart that a path leads to. -/
def lintChart (l : Linter) (w : Workspace) (root : Path) : Except LintError Report :=
  match w.find root with
  | .error _ => .ok { parseErrors := ["Chart path does not exist: " ++ root.render] }
  | .ok (.directory entries) => l.lintTree root (.directory entries)
  | .ok _ => .ok { parseErrors := ["Chart path is not a directory: " ++ root.render] }

end ContainerLint.Linter
