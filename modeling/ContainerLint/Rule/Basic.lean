/-
What a rule is. A *checker* is a state machine that meets the nodes of a document
one after the other, notes what it finds, and may note more at the end; a rule of
the other kind sees the whole at once. Either carries the code, severity and wording
that its findings have.
-/
import ContainerLint.Finding.Failure
import ContainerLint.Text.Digit
import ContainerLint.Value.Render

namespace ContainerLint

open ContainerLint.Text

/-- What a rule looks at. -/
inductive Domain where
  | dockerfile
  | chart
  deriving Repr, DecidableEq

/-- The name of a domain. -/
def Domain.label : Domain → String
  | .dockerfile => "dockerfile"
  | .chart => "helm"

/-- The options that settings give a rule. -/
abbrev RuleOptions := List (Value × Value)

/-- What is known of a rule apart from what it checks. -/
structure RuleInfo where
  code : String
  severity : Severity
  name : String
  /-- What a finding says that says nothing of its own. -/
  message : String
  description : String := ""
  fixable : Bool := false
  deriving Repr, DecidableEq

/-- What a rule is about: its description, or else what its findings say. -/
def RuleInfo.summary (info : RuleInfo) : String :=
  if info.description.isEmpty then info.message else info.description

/-- Why a rule cannot be carried through. -/
inductive RuleError where
  /-- A text that looks like a number is none. -/
  | numeral (e : NumeralError)
  /-- An option is of a kind that the rule cannot use. -/
  | badOption (message : String)
  deriving Repr, DecidableEq

/-- The wording of an error. -/
def RuleError.message : RuleError → String
  | .numeral e => e.message
  | .badOption message => message

/-- What a checker finds at a line. -/
structure Note where
  line : Nat
  /-- What the finding says, if not what the rule says. -/
  message : Option String := none
  column : Option Int := none
  deriving Repr, DecidableEq

/-- The failure that a note of a rule makes. -/
def RuleInfo.failure (info : RuleInfo) (file : String) (note : Note) : Failure where
  code := info.code
  severity := info.severity
  message := note.message.getD info.message
  file := file
  line := note.line
  column := note.column
  fixable := info.fixable

/-- The failure of a rule that sees the whole. -/
def RuleInfo.failureAt (info : RuleInfo) (message file : String) (line : Nat) : Failure :=
  info.failure file ⟨line, some message, none⟩

/-! ## Checkers -/

/-- A state machine over the nodes of a document. -/
structure Checker (Node State : Type) where
  start : State
  /-- The state after a node on a line, and what is found there. -/
  step : State → Nat → Node → Except RuleError (State × List Note)
  /-- What is found when there are no more nodes. -/
  finish : State → List Note := fun _ => []

/-- The notes of a run: those at each node, and those at the end. -/
structure Trace where
  steps : List (List Note)
  final : List Note
  deriving Repr, DecidableEq

/-- An error, and how many nodes were passed before it. -/
structure Stop where
  passed : Nat
  error : RuleError
  deriving Repr, DecidableEq

/-- All notes of a run in order. -/
def Trace.notes (t : Trace) : List Note :=
  t.steps.flatten ++ t.final

namespace Checker

/-- A checker that never stops early. -/
def ofStep {Node State : Type} (start : State) (step : State → Nat → Node → State × List Note)
    (finish : State → List Note) : Checker Node State where
  start := start
  step := fun s line node => .ok (step s line node)
  finish := finish

/-- A checker without memory: it notes the nodes that a condition does not hold of. -/
def ofCondition {Node : Type} (holds : Node → Bool) : Checker Node Unit :=
  ofStep () (fun _ line node => ((), if holds node then [] else [⟨line, none, none⟩])) fun _ => []

/-- The run of a checker from a state, `passed` nodes having been passed. -/
def traceFrom {Node State : Type} (c : Checker Node State) (passed : Nat) :
    State → List (Nat × Node) → Except Stop Trace
  | s, [] => .ok ⟨[], c.finish s⟩
  | s, (line, node) :: rest =>
    match c.step s line node with
    | .error e => .error ⟨passed, e⟩
    | .ok (s, notes) =>
      match c.traceFrom (passed + 1) s rest with
      | .error stop => .error stop
      | .ok t => .ok { t with steps := notes :: t.steps }

/-- The run of a checker. -/
def trace {Node State : Type} (c : Checker Node State) (nodes : List (Nat × Node)) :
    Except Stop Trace :=
  c.traceFrom 0 c.start nodes

end Checker

end ContainerLint
