/-
What checks of build files see: each instruction that is no comment, the one that it
defers right after it, and for commands of the common shell language their script.
-/
import ContainerLint.Dockerfile.Instruction
import ContainerLint.Rule.Basic
import ContainerLint.Shell.Script

namespace ContainerLint.Dockerfile

/-- An instruction as a check sees it. -/
structure Node where
  instruction : Instruction
  /-- The script of a command, where the shell's language is known. -/
  script : Option Shell.Script
  deriving Repr, DecidableEq

/-- A checker of build files that depends on options. -/
abbrev NodeChecker (State : Type) := Checker Node State

namespace Node

/-- The node of an instruction. Scripts are read only if the shell is a common one. -/
def ofInstruction (posix : Bool) (i : Instruction) : Node where
  instruction := i
  script := match i with
    | .run arguments _ => if posix then some (Shell.Script.ofText arguments.asText) else none
    | _ => none

/-- The nodes of an entry of a build file, each with the entry's line. -/
def ofEntry (posix : Bool) (entry : Positioned) : List (Nat × Node) :=
  if entry.instruction.isComment then []
  else entry.instruction.nodes.map fun i => (entry.line, ofInstruction posix i)

/-- The nodes of a build file. -/
def ofEntries (posix : Bool) (entries : List Positioned) : List (Nat × Node) :=
  entries.flatMap (ofEntry posix)

end Node

end ContainerLint.Dockerfile
