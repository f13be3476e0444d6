/-
What a command line asks for: to lint build files, charts or whatever is found, to list
the rules, or only for some information.
-/
import ContainerLint.Cli.Argument

namespace ContainerLint.Cli

open ContainerLint.Text

/-- The name of the program. -/
def programName : String := "lintcuro"

/-- The version of the program. -/
def programVersion : String := "0.1.0"

/-- The commands that lint. -/
inductive Command where
  | docker
  | helm
  | scan
  deriving Repr, DecidableEq

/-- The name of a command. -/
def Command.label : Command → String
  | .docker => "docker"
  | .helm => "helm"
  | .scan => "scan"

/-- The title of the reports of a command. -/
def Command.title : Command → String
  | .docker => "Docker Lint"
  | .helm => "Helm Lint"
  | .scan => "Scan Lint"

/-- The names of all commands. -/
def commandNames : List String := ["docker", "helm", "scan", "rules"]

/-- A request to lint. -/
structure LintRequest where
  command : Command
  paths : List String
  config : Option String := none
  threshold : Option String := none
  ignored : List String := []
  noFail : Bool := false
  fixableOnly : Bool := false
  strict : Bool := false
  json : Bool := false
  debug : Bool := false
  deriving Repr, DecidableEq

/-- A request. -/
inductive Request where
  /-- To say what the program is, for want of arguments. -/
  | overview
  | lint (r : LintRequest)
  | rules
  deriving Repr, DecidableEq

/-- What ends the program before it does anything; help and errors belong to a command or
to the program. -/
inductive Stop where
  | usage (command : Option String) (e : UsageError)
  | help (command : Option String)
  | version
  deriving Repr, DecidableEq

/-- The name of the program with that of a command. -/
def fullName (command : Option String) : String :=
  match command with
  | some c => programName ++ " " ++ c
  | none => programName

/-- What is said of a usage error. -/
def usageMessage (command : Option String) (e : UsageError) : String :=
  fullName command ++ ": error: " ++ e.message

/-- What is said about the version. -/
def versionMessage : String :=
  programName ++ " v" ++ programVersion

/-! ## Options -/

/-- The option for help. -/
def helpOption : OptionSpec := ⟨["-h", "--help"], .help⟩

/-- The options of the program. -/
def mainOptions : List OptionSpec := [helpOption, ⟨["-v", "--version"], .version⟩]

/-- The options of the commands that lint. -/
def lintOptions : List OptionSpec := [
  helpOption,
  ⟨["--config"], .value []⟩,
  ⟨["--threshold"], .value []⟩,
  ⟨["--ignore"], .value []⟩,
  ⟨["--no-fail"], .flag⟩,
  ⟨["--fixable-only"], .flag⟩,
  ⟨["--strict"], .flag⟩,
  ⟨["--format"], .value ["table", "json"]⟩,
  ⟨["--debug"], .flag⟩]

/-- The values that an option has been given. -/
def Reading.valuesOf (r : Reading) (name : String) : List String :=
  (r.uses.filter fun (o, _) => o.names.contains name).map (·.2)

/-- An option has been given. -/
def Reading.has (r : Reading) (name : String) : Bool :=
  !(r.valuesOf name).isEmpty

/-- The request to lint that has been read. -/
def Reading.toRequest (r : Reading) (command : Command) : LintRequest where
  command := command
  paths := r.operands
  config := (r.valuesOf "--config").getLast?
  threshold := (r.valuesOf "--threshold").getLast?
  ignored := r.valuesOf "--ignore"
  noFail := r.has "--no-fail"
  fixableOnly := r.has "--fixable-only"
  strict := r.has "--strict"
  json := (r.valuesOf "--format").getLast? == some "json"
  debug := r.has "--debug"

/-! ## Reading -/

/-- What ends the reading of a command's arguments, as an end of the program. -/
def Halt.toStop (command : Option String) : Halt → Stop
  | .usage e => .usage command e
  | .help => .help command
  | .version => .version

/-- Reads the arguments of a command that lints; what fits nothing is given back. -/
def readLint (command : Command) (args : List String) : Except Stop (Request × List String) :=
  match readArguments lintOptions .oneOrMore args with
  | .error h => .error (h.toStop (some command.label))
  | .ok r =>
    if r.operands.isEmpty then .error (.usage (some command.label) (.missingOperand "paths"))
    else .ok (.lint (r.toRequest command), r.extras)

/-- Reads a command with its arguments; what fits nothing is given back. -/
def readCommand (name : String) (args : List String) : Except Stop (Request × List String) :=
  match name with
  | "docker" => readLint .docker args
  | "helm" => readLint .helm args
  | "scan" => readLint .scan args
  | "rules" =>
    match readArguments [helpOption] .absent args with
    | .error h => .error (h.toStop (some name))
    | .ok r => .ok (.rules, r.extras)
  | _ => .error (.usage none (.badChoice "Command" name commandNames))

/-- Reads a command line. -/
def readRequest (args : List String) : Except Stop Request := do
  if args.isEmpty then return .overview
  let r ← match readArguments mainOptions .commandAndRest args with
    | .error h => .error (h.toStop none)
    | .ok r => .ok r
  let (request, extras) ← match r.operands with
    | name :: rest => readCommand name rest
    | [] => .ok (.overview, [])
  match r.extras ++ extras with
  | [] => return request
  | extras => .error (.usage none (.unrecognized extras))

/-! ## Help -/

/-- The help of the program. -/
def mainHelp : List String := [
  "usage: lintcuro [-h] [-v] Command ...",
  "",
  "LintCuro - Dockerfile & Helm chart linter",
  "",
  "positional arguments:",
  "  Command",
  "    docker       🐳 Lint Dockerfiles",
  "    helm         ⎈ Lint Helm charts",
  "    scan         🔍 Discover and lint everything",
  "    rules        📋 List bundled rules",
  "",
  "options:",
  "  -h, --help     show this help message and exit",
  "  -v, --version  show program's version number and exit"]

/-- What the paths of a command are. -/
def pathsHelp : String → String
  | "docker" => "Dockerfile paths ('-' reads stdin)"
  | "helm" => "Chart directories"
  | _ => "Files or directories"

/-- The help of a command that lints. -/
def lintHelp (command : String) : List String :=
  let start := "usage: " ++ fullName (some command) ++ " "
  let indent := String.ofList (List.replicate start.length ' ')
  [ start ++ "[-h] [--config CONFIG] [--threshold THRESHOLD]",
    indent ++ "[--ignore CODE] [--no-fail] [--fixable-only] [--strict]",
    indent ++ "[--format \x7btable,json\x7d] [--debug]",
    indent ++ "paths [paths ...]",
    "",
    "positional arguments:",
    "  paths                 " ++ pathsHelp command,
    "",
    "options:",
    "  -h, --help            show this help message and exit",
    "  --config CONFIG       Path to a config file (default: search upward)",
    "  --threshold THRESHOLD",
    "                        Minimum severity: error, warning, info, style",
    "  --ignore CODE         Disable a rule (repeatable)",
    "  --no-fail             Always exit 0",
    "  --fixable-only        Report only auto-fixable findings",
    "  --strict              Promote warnings to errors",
    "  --format \x7btable,json\x7d",
    "                        Output format",
    "  --debug               Verbose logging" ]

/-- The help of the program or of a command. -/
def helpLines : Option String → List String
  | none => mainHelp
  | some "rules" => [
      "usage: lintcuro rules [-h]",
      "",
      "options:",
      "  -h, --help  show this help message and exit"]
  | some command => lintHelp command

end ContainerLint.Cli
