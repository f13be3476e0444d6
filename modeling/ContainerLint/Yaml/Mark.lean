/-
Places in a document, and the excerpt a message gives of the line around a place.
-/
import ContainerLint.Text.Cut

namespace ContainerLint.Yaml

/-- A place in a document: characters before it, lines before it, and characters
before it on its line. -/
structure Mark where
  index : Nat
  line : Nat
  column : Nat
  deriving Repr, DecidableEq, Inhabited

namespace Mark

/-- The start of a document. -/
def start : Mark := ⟨0, 0, 0⟩

/-- The place after a character, given the one that follows it. A carriage return
before a line feed leaves the line to it, and a byte order mark has no width. -/
def past (m : Mark) (c : Char) (next : Option Char) : Mark :=
  if c == '\n' || (c == '\r' && next != some '\n') then ⟨m.index + 1, m.line + 1, 0⟩
  else if c == '\uFEFF' then { m with index := m.index + 1 }
  else { m with index := m.index + 1, column := m.column + 1 }

/-- The two places are on the same line and in the same column. -/
def sameSpot (a b : Mark) : Bool :=
  a.line == b.line && a.column == b.column

end Mark

/-- A character that ends a line of an excerpt. -/
def endsExcerpt (c : Char) : Bool :=
  c == '\r' || c == '\n' || c == '\u0085' || c == '\u2028' || c == '\u2029'

/-- How far an excerpt reaches to either side of its place. -/
def excerptReach : Nat := 37

/-- The part of a line on one side of a place, given nearest character first, and
whether it is cut: what reaches further loses five characters to dots. -/
def excerptSide (cs : List Char) : List Char × Bool :=
  let line := cs.takeWhile (!endsExcerpt ·)
  if line.length < excerptReach then (line, false) else (line.take (excerptReach - 5), true)

/-- The line around a place, with a caret under the place. -/
def excerpt (document : List Char) (m : Mark) : String :=
  let (before, cutBefore) := excerptSide (document.take m.index).reverse
  let (after, cutAfter) := excerptSide (document.drop m.index)
  let head := if cutBefore then " ... " else ""
  let tail := if cutAfter then " ... " else ""
  let indent := String.ofList (List.replicate (4 + before.length + head.length) ' ')
  "    " ++ head ++ String.ofList (before.reverse ++ after) ++ tail ++ "\n" ++
    indent ++ "^ (line: " ++ toString (m.line + 1) ++ ")"

/-- A place in words, with its excerpt. -/
def Mark.describe (document : List Char) (m : Mark) : String :=
  "  in \"<unicode string>\", line " ++ toString (m.line + 1) ++ ", column " ++
    toString (m.column + 1) ++ ":\n" ++ excerpt document m

end ContainerLint.Yaml
