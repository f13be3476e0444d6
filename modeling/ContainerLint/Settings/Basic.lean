/-
The settings of a run: which rules are off or report at another severity, which
files are left out, and what makes the run fail.
-/
import ContainerLint.Finding.Severity
import ContainerLint.Settings.Glob
import ContainerLint.Value.Render

namespace ContainerLint

open ContainerLint.Text

/-- The settings of one rule. Without a level the rule's own severity holds. -/
structure RuleSettings where
  level : Option Severity := none
  options : List (Value × Value) := []
  deriving Repr

namespace RuleSettings

/-- The rule is not switched off. -/
def enabled (r : RuleSettings) : Bool :=
  r.level != some .ignore

/-- An option of the rule. -/
def option? (r : RuleSettings) (key : String) : Option Value :=
  Value.find? (.text key) r.options

/-- An option that is a truth value; any other value counts as the default. -/
def flag (r : RuleSettings) (key : String) (default : Bool) : Bool :=
  match r.option? key with
  | some (.bool b) => b
  | _ => default

/-- An option as text; a missing one is the default. -/
def text? (r : RuleSettings) (key : String) (default : Option String) :
    Except NumeralError (Option String) :=
  match r.option? key with
  | none | some .null => .ok default
  | some v => v.plain.map some

/-- An option as a list of texts; a text counts as one item. -/
def texts (r : RuleSettings) (key : String) : Except NumeralError (List String) :=
  match (r.option? key).map Value.opened with
  | some (.text s) => .ok [s]
  | some (.list items) => items.mapM Value.plain
  | some (.tuple items) => items.mapM Value.plain
  | _ => .ok []

end RuleSettings

/-- The settings of a run. -/
structure Settings where
  rules : List (String × RuleSettings) := []
  quiet : Bool := false
  debug : Bool := false
  exclude : List String := []
  threshold : Severity := .style
  /-- Pragmas have no effect. -/
  ignorePragmas : Bool := false
  /-- Only findings that can be fixed by a tool are reported. -/
  fixableOnly : Bool := false
  /-- The run never fails. -/
  noFail : Bool := false
  /-- Warnings count as errors. -/
  strict : Bool := false
  deriving Repr

namespace Settings

/-- The settings of a rule with an update, made in the rule's place, or at the end for a
rule without settings so far. -/
def updateRule (code : String) (f : RuleSettings → RuleSettings) :
    List (String × RuleSettings) → List (String × RuleSettings)
  | [] => [(code, f {})]
  | (c, r) :: rest => if c == code then (c, f r) :: rest else (c, r) :: updateRule code f rest

/-- The settings with those of a rule updated; codes are in upper case. -/
def update (s : Settings) (code : String) (f : RuleSettings → RuleSettings) : Settings :=
  { s with rules := updateRule (upper code) f s.rules }

/-- The settings with a rule at a level. -/
def setLevel (s : Settings) (code : String) (level : Option Severity) : Settings :=
  s.update code fun r => { r with level := level }

/-- The settings with each of some rules at a level. -/
def setLevels (s : Settings) (codes : List String) (level : Severity) : Settings :=
  codes.foldl (fun s code => s.setLevel code (some level)) s

/-- The settings of a rule, if there are any. -/
def rule? (s : Settings) (code : String) : Option RuleSettings :=
  s.rules.lookup code

/-- The options of a rule. -/
def optionsOf (s : Settings) (code : String) : List (Value × Value) :=
  ((s.rule? code).map (·.options)).getD []

/-- A rule is switched off. -/
def disables (s : Settings) (code : String) : Bool :=
  (s.rule? code).any (!·.enabled)

/-- The severity at which a rule reports, given its own. -/
def severityOf (s : Settings) (code : String) (own : Severity) : Severity :=
  let level := ((s.rule? code).bind (·.level)).getD own
  if s.strict && level == .warning then .error else level

/-- The last part of a path. -/
def baseName (path : List Char) : List Char :=
  match cutAtLast '/' path with
  | some (_, name) => name
  | none => path

/-- A pattern for files to leave out covers a path: it stands for the path or for its
last part, or it is no pattern and occurs in the path. -/
def covers (path pattern : String) : Bool :=
  Glob.isMatch pattern path || Glob.isMatch pattern (String.ofList (baseName path.toList)) ||
    (!Glob.isPattern pattern && contains path pattern)

/-- A path is left out. -/
def excludes (s : Settings) (path : String) : Bool :=
  s.exclude.any (covers path)

end Settings

end ContainerLint
