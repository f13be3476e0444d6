/-
What can be wrong with a Dockerfile, and how it is worded. A fault stops the
reading at the line where the faulty instruction starts. A run of digits that is
not a number is kept apart, for it carries no line.
-/
import ContainerLint.Shell.Words
import ContainerLint.Text.Digit
import ContainerLint.Text.Quoted

namespace ContainerLint.Dockerfile

open ContainerLint.Text

/-- What is wrong with an instruction. -/
inductive Fault where
  | emptyInstruction
  | unknownInstruction (keyword : String)
  | unterminatedHeredoc (word : String)
  | argumentMissing (keyword : String)
  | argumentsMissing (keyword : String)
  | malformedFlag (keyword : String)
  | unknownFlag (name keyword : String)
  | platformWithoutValue
  | imageMissing
  | stageShape
  | mountType (type : String)
  | mountNumber (key : String)
  | pathMissing (keyword : String)
  | unevenQuotes (keyword : String) (error : Shell.WordsError)
  | pairExpected (keyword word : String)
  | invalidPort (word : String)
  | invalidProtocol (name : String)
  | invalidArgName (name : String)
  | shellNotExec
  | healthcheckShape
  | retriesNotNumber
  | nestedOnBuild
  deriving Repr, DecidableEq

/-- The wording of a fault. -/
def Fault.message : Fault → String
  | .emptyInstruction => "empty instruction"
  | .unknownInstruction keyword => s!"unknown instruction '{keyword}'"
  | .unterminatedHeredoc word => s!"unterminated heredoc '{word}'"
  | .argumentMissing keyword => s!"{keyword} requires an argument"
  | .argumentsMissing keyword => s!"{keyword} requires arguments"
  | .malformedFlag keyword => s!"malformed flag in {keyword}"
  | .unknownFlag name keyword => s!"unknown flag '--{name}' for {keyword}"
  | .platformWithoutValue => "--platform requires a value"
  | .imageMissing => "FROM requires an image"
  | .stageShape => "expected 'FROM image [AS name]'"
  | .mountType type => s!"unsupported mount type '{type}'"
  | .mountNumber key => s!"mount option '{key}' must be an integer"
  | .pathMissing keyword => s!"{keyword} requires at least one path"
  | .unevenQuotes keyword error => s!"{keyword}: {error.message}"
  | .pairExpected keyword word => s!"{keyword}: expected key=value, got '{word}'"
  | .invalidPort word => s!"invalid port '{word}'"
  | .invalidProtocol name => s!"invalid protocol '{name}'"
  | .invalidArgName name => s!"invalid ARG name '{name}'"
  | .shellNotExec => "SHELL requires the exec (JSON array) form"
  | .healthcheckShape => "HEALTHCHECK expects NONE or CMD"
  | .retriesNotNumber => "HEALTHCHECK --retries must be an integer"
  | .nestedOnBuild => "ONBUILD ONBUILD is not allowed"

/-- Why one instruction cannot be read. -/
inductive InstructionError where
  /-- The instruction is not well formed; the column is given where it is known. -/
  | fault (cause : Fault) (column : Option Nat)
  /-- A run of digits is not a number. -/
  | numeral (error : NumeralError)
  deriving Repr, DecidableEq

/-- Why a document cannot be read. -/
inductive ParseError where
  /-- The instruction that starts at the line is not well formed. -/
  | malformed (fault : Fault) (line : Nat) (column : Option Nat)
  /-- A run of digits is not a number. -/
  | numeral (error : NumeralError)
  deriving Repr, DecidableEq

/-- The error of an instruction, at the line where the instruction starts. -/
def InstructionError.atLine (line : Nat) : InstructionError → ParseError
  | .fault cause column => .malformed cause line column
  | .numeral error => .numeral error

/-- The wording of a document's error. -/
def ParseError.message : ParseError → String
  | .malformed fault line (some column) => s!"line {line}:{column}: {fault.message}"
  | .malformed fault line none => s!"line {line}: {fault.message}"
  | .numeral error => error.message

end ContainerLint.Dockerfile
