/-
The control structures of a chart template: what kind an action is, by its first
word, and which kinds open a block that an `end` has to close.
-/
import ContainerLint.Text.Cut

namespace ContainerLint.Template

open ContainerLint.Text

/-- The kinds of control actions. -/
inductive Control where
  | ifBlock
  | elseBranch
  | elseIf
  | range
  | withBlock
  | define
  | block
  | template
  | endBlock
  deriving Repr, DecidableEq

namespace Control

/-- The name of the kind in messages. -/
def label : Control → String
  | .ifBlock => "If"
  | .elseBranch => "Else"
  | .elseIf => "ElseIf"
  | .range => "Range"
  | .withBlock => "With"
  | .define => "Define"
  | .block => "Block"
  | .template => "Template"
  | .endBlock => "End"

/-- The kind opens a block. -/
def startsBlock : Control → Bool
  | .ifBlock | .range | .withBlock | .define | .block => true
  | _ => false

/-- The kind that a list of words starts with. -/
def ofWords? : List String → Option Control
  | "else" :: "if" :: _ => some .elseIf
  | "else" :: _ => some .elseBranch
  | "if" :: _ => some .ifBlock
  | "range" :: _ => some .range
  | "with" :: _ => some .withBlock
  | "define" :: _ => some .define
  | "block" :: _ => some .block
  | "template" :: _ => some .template
  | "end" :: _ => some .endBlock
  | _ => none

/-- The kind of an action with the given content. -/
def classify? (content : String) : Option Control :=
  ofWords? (wordsOf content)

end Control

end ContainerLint.Template
