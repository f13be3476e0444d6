/-
Remarks: the comments and empty lines of a document, which stay with the token that
they stand next to. A token may pass its remarks on to the one after it, but two
remarks on the same side of a token have no room.
-/
import ContainerLint.Text.Cut
import ContainerLint.Text.Quoted
import ContainerLint.Yaml.Mark

namespace ContainerLint.Yaml

open ContainerLint.Text

/-- A comment or a run of empty lines, with the place that it counts from. -/
structure Remark where
  text : String
  start : Mark
  deriving Repr, DecidableEq

/-- What stands before a token: a remark, or the comment in the header of a scalar. -/
inductive Preface where
  | remark (r : Remark)
  | header (text : String)
  deriving Repr, DecidableEq

/-- The remarks on a token. -/
structure Remarks where
  /-- The one after it. -/
  after : Option Remark := none
  /-- Those before it, if there may be any. -/
  before : Option (List Preface) := none
  /-- They came from a colon without a value, and the one after it is kept twice. -/
  twice : Bool := false
  deriving Repr, DecidableEq

namespace Remark

/-- A remark in words. -/
def message (r : Remark) : String :=
  "CommentToken(" ++ quoted r.text ++ ", line: " ++ toString r.start.line ++ ", col: " ++
    toString r.start.column ++ ")"

end Remark

/-- What stands before a token, in words. -/
def Preface.message : Preface → String
  | .remark r => r.message
  | .header text => quoted text

namespace Remarks

/-- Remarks in words. -/
def message (r : Remarks) : String :=
  let after := match r.after with
    | some remark => remark.message
    | none => "None"
  let before := match r.before with
    | some prefaces => "[" ++ joinWith ", " (prefaces.map Preface.message) ++ "]"
    | none => "None"
  let parts := if r.twice then [after, before, "None", "None", after] else [after, before]
  "[" ++ joinWith ", " parts ++ "]"

/-- There is a remark before the token. -/
def hasBefore (r : Remarks) : Bool :=
  r.before.any (!·.isEmpty)

/-- The two have a remark on the same side. -/
def collides (moved kept : Remarks) : Bool :=
  (moved.after.isSome && kept.after.isSome) || (moved.hasBefore && kept.hasBefore)

/-- Remarks with those of another token in the sides that are free. -/
def take (moved kept : Remarks) : Remarks :=
  { kept with
    after := if moved.after.isSome then moved.after else kept.after
    before := if moved.hasBefore then moved.before else kept.before }

end Remarks

end ContainerLint.Yaml
