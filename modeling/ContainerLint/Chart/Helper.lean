/-
The helpers of a chart: named templates between a `define` and its `end`, each
with the comment that describes it.
-/
import ContainerLint.Template.Document

namespace ContainerLint.Chart

open ContainerLint.Template

/-- A named template. -/
structure Helper where
  /-- The name in quotes. -/
  name : String
  /-- The line of its `define`. -/
  line : Nat
  /-- The tokens up to its `end`, rendered. -/
  content : String
  /-- The comment that describes it. -/
  description : Option String
  deriving Repr, DecidableEq

/-- A comment describes a helper if it starts at most this many lines before it. -/
def descriptionWindow : Nat := 5

/-- The tokens up to the `end` that closes the block they stand in, `depth` blocks
being open inside it; all of them where there is no such `end`. -/
def bodyTokens : Nat → List Token → List Token
  | _, [] => []
  | depth, t :: ts =>
    match t.control? with
    | some .endBlock =>
      match depth with
      | 0 => []
      | depth + 1 => t :: bodyTokens depth ts
    | some kind => t :: bodyTokens (if kind.startsBlock then depth + 1 else depth) ts
    | none => t :: bodyTokens depth ts

/-- The description of a helper on the given line, the tokens before it being given
nearest first: the nearest token that is not text, if it is a comment close enough. -/
def descriptionBefore (line : Nat) : List Token → Option String
  | [] => none
  | .comment content start .. :: _ =>
    if line ≤ start + descriptionWindow then some content else none
  | .action .. :: _ => none
  | .text .. :: ts => descriptionBefore line ts

/-- The helper that a token opens. -/
def helperAt? (before : List Token) (t : Token) (after : List Token) : Option Helper :=
  match t.control? with
  | some .define =>
    (quotedName? t.content).map fun name =>
      { name := name
        line := t.line
        content := String.join ((bodyTokens 0 after).map Token.render)
        description := descriptionBefore t.line before }
  | _ => none

/-- The helpers among the given tokens, those before them being given nearest first. -/
def helpersFrom (before : List Token) : List Token → List Helper
  | [] => []
  | t :: ts => (helperAt? before t ts).toList ++ helpersFrom (t :: before) ts

/-- A file of helpers. -/
structure HelperFile where
  /-- The file as a template. -/
  template : Document
  /-- Its helpers in order. -/
  helpers : List Helper
  deriving Repr, DecidableEq

/-- Reads a file of helpers. -/
def HelperFile.ofText (text path : String) : HelperFile :=
  let template := Document.ofText text path
  ⟨template, helpersFrom [] template.tokens⟩

/-- The names of the helpers. -/
def HelperFile.names (f : HelperFile) : List String :=
  f.helpers.map (·.name)

end ContainerLint.Chart
