/-
The ports of an EXPOSE instruction: a number or a range of numbers, or a build
variable, and after a slash the protocol.
-/
import ContainerLint.Dockerfile.Error
import ContainerLint.Dockerfile.Instruction
import ContainerLint.Text.Alphanumeric

namespace ContainerLint.Dockerfile.Port

open ContainerLint.Text

/-- The parts of a numeric port: the first number, the number after a dash, and the
protocol after a slash. -/
structure Parts where
  first : List Char
  last : Option (List Char)
  protocol : Option (List Char)

/-- A protocol after a slash, or nothing at all. -/
def readProtocol? : List Char → Option (Option (List Char))
  | [] => some none
  | '/' :: cs => if !cs.isEmpty && cs.all isWordChar then some (some cs) else none
  | _ => none

/-- The parts of a word that is a numeric port. -/
def parts? (cs : List Char) : Option Parts :=
  let first := cs.takeWhile isDecimal
  if first.isEmpty then none
  else match cs.dropWhile isDecimal with
    | '-' :: back =>
      let last := back.takeWhile isDecimal
      if last.isEmpty then none
      else (readProtocol? (back.dropWhile isDecimal)).map (⟨first, some last, ·⟩)
    | back => (readProtocol? back).map (⟨first, none, ·⟩)

/-- The variable and the protocol of a word that a dollar sign starts. What follows
the last slash is the protocol if it is made of letters and something stands between
the dollar sign and the slash. -/
def buildVariable? : List Char → Option (List Char × Option (List Char))
  | '$' :: c :: cs =>
    match cutAtLast '/' (c :: cs) with
    | some (d :: front, back) =>
      if !back.isEmpty && back.all Char.isAlpha then some ('$' :: d :: front, some back)
      else some ('$' :: c :: cs, none)
    | _ => some ('$' :: c :: cs, none)
  | _ => none

/-- The protocol that a name stands for, read without case; none means TCP. -/
def protocolOf (name : Option (List Char)) : Except InstructionError Protocol :=
  match lower (String.ofList (name.getD "tcp".toList)) with
  | "tcp" => .ok .tcp
  | "udp" => .ok .udp
  | "sctp" => .ok .sctp
  | other => .error (.fault (.invalidProtocol other) none)

/-- A port number. -/
def readNumber (cs : List Char) : Except InstructionError Nat :=
  match readDecimal cs with
  | .ok n => .ok n
  | .error e => .error (.numeral e)

/-- The port that a word denotes. -/
def ofWord (cs : List Char) : Except InstructionError Port := do
  match parts? cs with
  | some parts =>
    let first ← readNumber parts.first
    let last ← parts.last.mapM readNumber
    return { spec := .number first last, protocol := ← protocolOf parts.protocol }
  | none =>
    match buildVariable? cs with
    | some (name, protocol) =>
      return { spec := .buildVariable (String.ofList name), protocol := ← protocolOf protocol }
    | none => .error (.fault (.invalidPort (String.ofList cs)) none)

end ContainerLint.Dockerfile.Port
