/-
A whole template: its tokens, the balance of its blocks, and what its actions
refer to. Reading never fails; what is wrong with a template is part of what is
known about it.
-/
import ContainerLint.Template.Reference
import ContainerLint.Template.Token

namespace ContainerLint.Template

open ContainerLint.Text

/-! ## What can be wrong -/

/-- What is wrong with a template. -/
inductive Fault where
  /-- An action has no closing braces. -/
  | unclosedAction
  /-- An `end` closes nothing. -/
  | unexpectedEnd
  /-- A block is never closed. -/
  | unclosedBlock (kind : Control)
  deriving Repr, DecidableEq

/-- The wording of a fault. -/
def Fault.message : Fault → String
  | .unclosedAction => "Unclosed template action"
  | .unexpectedEnd => "Unexpected end"
  | .unclosedBlock kind => s!"Unclosed {kind.label} block"

/-- A fault and its line. -/
structure LineFault where
  fault : Fault
  line : Nat
  deriving Repr, DecidableEq

/-- The wording of a fault with its line. -/
def LineFault.message (f : LineFault) : String :=
  s!"line {f.line}: {f.fault.message}"

/-! ## The balance of blocks -/

/-- The open blocks, innermost first, and the lines of the ends that closed nothing,
last first. -/
structure Balance where
  opened : List (Control × Nat) := []
  strayEnds : List Nat := []
  deriving Repr, DecidableEq

/-- Takes one token. -/
def Balance.step (b : Balance) (t : Token) : Balance :=
  match t.control? with
  | some .endBlock =>
    match b.opened with
    | _ :: opened => { b with opened := opened }
    | [] => { b with strayEnds := t.line :: b.strayEnds }
  | some kind => if kind.startsBlock then { b with opened := (kind, t.line) :: b.opened } else b
  | none => b

/-! ## Templates -/

/-- A template: its path, its tokens and the line of an action that never closes. -/
structure Document where
  path : String
  tokens : List Token
  unclosedAction : Option Nat
  deriving Repr, DecidableEq

namespace Document

/-- Reads a template. -/
def ofText (text path : String) : Document :=
  let (tokens, unclosed) := scan (.text [] 1) 1 text.toList
  ⟨path, tokens, unclosed⟩

/-- The contents of the actions. -/
def actions (d : Document) : List String :=
  d.tokens.filterMap fun
    | .action content .. => some content
    | _ => none

/-- The contents of the comments. -/
def comments (d : Document) : List String :=
  d.tokens.filterMap fun
    | .comment content .. => some content
    | _ => none

/-- The balance of the blocks over the whole template. -/
def balance (d : Document) : Balance :=
  d.tokens.foldl Balance.step {}

/-- The blocks that are never closed, in the order they open. -/
def unclosedBlocks (d : Document) : List (Control × Nat) :=
  d.balance.opened.reverse

/-- Everything that is wrong: stray ends in order, then an action that never closes,
then the blocks that are never closed. -/
def errors (d : Document) : List LineFault :=
  d.balance.strayEnds.reverse.map (⟨.unexpectedEnd, ·⟩) ++
    d.unclosedAction.toList.map (⟨.unclosedAction, ·⟩) ++
    d.unclosedBlocks.map fun (kind, line) => ⟨.unclosedBlock kind, line⟩

/-- The variable paths that the actions use, without repetitions. -/
def variablePaths (d : Document) : List String :=
  (d.actions.flatMap variablesIn).eraseDups

/-- The known functions that the actions name, without repetitions. -/
def functions (d : Document) : List String :=
  (d.actions.flatMap functionsIn).eraseDups

/-- The names that `define` and `block` actions give. -/
def definedNames (d : Document) : List String :=
  (d.actions.filterMap fun content =>
    match Control.classify? content with
    | some .define | some .block => quotedName? content
    | _ => none).eraseDups

/-- The names that `include` and `template` actions refer to. -/
def referencedNames (d : Document) : List String :=
  (d.actions.filterMap fun content =>
    if contains content "include" || contains content "template" then quotedName? content
    else none).eraseDups

/-- The paths under `.Values` that the actions use. -/
def valuesReferences (d : Document) : List String :=
  (d.variablePaths.filter (startsWith · ".Values.")).map fun path =>
    String.ofList (path.toList.drop ".Values.".length)

/-- The paths under `.Release` that the actions use. -/
def releaseReferences (d : Document) : List String :=
  d.variablePaths.filter (startsWith · ".Release.")

/-- Some action names the function. -/
def callsFunction (d : Document) (name : String) : Bool :=
  d.functions.contains name

end Document

end ContainerLint.Template
