/-
Checks on the commands of a build file taken together: commands in a row, tools that
do the same, and pipes whose failures go unseen.
-/
import ContainerLint.Rule.Dockerfile.Stage

namespace ContainerLint.Dockerfile

open ContainerLint.Text

/-! ## Commands in a row -/

/-- The step of `consecutiveRuns`: whether the node before was a command. -/
def stepRuns (afterRun : Bool) (line : Nat) (n : Node) : Bool × List Note :=
  match n.instruction with
  | .run .. => (true, if afterRun then noteAt line else [])
  | _ => (false, [])

/-- No command directly follows another. -/
def consecutiveRuns : NodeChecker Bool :=
  Checker.ofStep false stepRuns fun _ => []

/-! ## Tools for the same work -/

/-- The lines of the commands that use each of two tools. -/
structure Downloads where
  wget : List Nat
  curl : List Nat
  deriving Repr, DecidableEq

/-- The step of `oneDownloader`. -/
def stepDownloads (d : Downloads) (line : Nat) (n : Node) : Downloads × List Note :=
  match n.script with
  | some s =>
    ({ wget := if s.usesProgram "wget" then d.wget ++ [line] else d.wget
       curl := if s.usesProgram "curl" then d.curl ++ [line] else d.curl }, [])
  | none => (d, [])

/-- Only one of two tools for downloads is used. -/
def oneDownloader : NodeChecker Downloads :=
  Checker.ofStep ⟨[], []⟩ stepDownloads fun d =>
    if d.wget.isEmpty || d.curl.isEmpty then [] else (d.wget ++ d.curl).flatMap noteAt

/-! ## Pipes -/

/-- A short flag that takes the name of an option. -/
def takesOption (word : String) : Bool :=
  startsWith word "-" && !startsWith word "--" && endsWith word "o"

/-- The words make the failure of any part of a pipe count. -/
def setsPipefail : List String → Bool
  | word :: next :: rest =>
    (takesOption word && next == "pipefail") || setsPipefail (next :: rest)
  | _ => false

/-- A shell with a language of its own, by its name. -/
def isForeignShell (program : String) : Bool :=
  ["pwsh", "powershell", "cmd"].any (contains program)

/-- The shell needs no option for pipes. -/
def isSafeShell (items : List String) : Bool :=
  items.head?.any isForeignShell || setsPipefail items

/-- The script sets the option for pipes first. -/
def startsWithPipefail (s : Shell.Script) : Bool :=
  match s.commands.head? with
  | some c => c.name == "set" && setsPipefail c.arguments
  | none => false

/-- The step of `pipefail`: whether the stage's shell has the option. -/
def stepPipefail (safe : Bool) (line : Nat) (n : Node) : Bool × List Note :=
  match n.instruction with
  | .base _ => (false, [])
  | .shell arguments => (isSafeShell arguments.words, [])
  | _ =>
    match n.script with
    | some s => (safe, if s.hasPipes && !safe && !startsWithPipefail s then noteAt line else [])
    | none => (safe, [])

/-- Commands with pipes run where the failure of any part counts. -/
def pipefail : NodeChecker Bool :=
  Checker.ofStep false stepPipefail fun _ => []

end ContainerLint.Dockerfile
