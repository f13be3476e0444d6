/-
Conditions on single instructions of a build file. Each holds of every instruction
that it is not about.
-/
import ContainerLint.Rule.Dockerfile.Node

namespace ContainerLint.Dockerfile.Node

open ContainerLint.Text

/-- A text without blanks and then quotes at its ends. -/
def unquote (s : String) : List Char :=
  dropEnds (fun c => c == '"' || c == '\'') (trim s.toList)

/-- A path that starts with a drive. -/
def startsDrive : List Char → Bool
  | letter :: ':' :: slash :: _ => letter.isAlpha && (slash == '\\' || slash == '/')
  | _ => false

/-- A path that does not depend on the working directory, as far as can be seen. -/
def isAbsolute (path : String) : Bool :=
  let cs := unquote path
  cs.head? == some '/' || cs.head? == some '$' || startsDrive cs

/-- The working directory is given by an absolute path. -/
def hasAbsoluteWorkdir (n : Node) : Bool :=
  match n.instruction with
  | .workdir path => isAbsolute path
  | _ => true

/-- No command runs as another user. -/
def avoidsSudo (n : Node) : Bool :=
  match n.script with
  | some s => !s.usesProgram "sudo"
  | none => true

/-- Packages are installed without the recommended ones. -/
def avoidsRecommends (n : Node) : Bool :=
  match n.script with
  | some s => !s.anyCommand fun c => c.isAptGetInstall && !c.hasFlag "--no-install-recommends"
  | none => true

/-- Packages are installed without a cache. -/
def avoidsPipCache (n : Node) : Bool :=
  match n.script with
  | some s => !s.anyCommand fun c => c.isPipInstall && !c.hasFlag "--no-cache-dir"
  | none => true

/-- The base image is not the latest one, whatever that is. -/
def avoidsLatest (n : Node) : Bool :=
  match n.instruction with
  | .base image => image.tag != some "latest" || image.digest.isSome
  | _ => true

/-- What is added comes from the web, is unpacked, or is not known. -/
def addsRemoteOrArchive (n : Node) : Bool :=
  match n.instruction with
  | .add sources _ _ =>
    Instruction.hasUrl sources || Instruction.hasArchive sources ||
      sources.all (startsWith · "$")
  | _ => true

/-- The command to start is a list of words. -/
def startsByExec (n : Node) : Bool :=
  match n.instruction with
  | .cmd arguments => arguments.isExec
  | .entrypoint arguments => arguments.isExec
  | _ => true

/-- A value refers to a key. -/
def refersTo (value key : String) : Bool :=
  contains value ("$" ++ key) || contains value ("$\x7b" ++ key ++ "\x7d")

/-- No value refers to a key that is set before it, `seen` being such keys. -/
def selfContained (seen : List String) : List (String × String) → Bool
  | [] => true
  | (key, value) :: rest => !seen.any (refersTo value) && selfContained (seen ++ [key]) rest

/-- No variable is used in the instruction that sets it. -/
def avoidsSelfReference (n : Node) : Bool :=
  match n.instruction with
  | .env pairs => selfContained [] pairs
  | _ => true

/-- A character of a label's key after the first. -/
def isLabelChar (c : Char) : Bool :=
  c.isAlphanum || c == '.' || c == '_' || c == '-'

/-- The keys of labels are made of basic characters; a line feed may end a key. -/
def hasValidLabels (n : Node) : Bool :=
  match n.instruction with
  | .label pairs => pairs.all fun (key, _) =>
      isName Char.isAlphanum isLabelChar (dropLineFeed key.toList)
  | _ => true

/-- The instruction is not the outdated one that names a maintainer. -/
def avoidsMaintainer (n : Node) : Bool :=
  match n.instruction with
  | .maintainer _ => false
  | _ => true

end ContainerLint.Dockerfile.Node
