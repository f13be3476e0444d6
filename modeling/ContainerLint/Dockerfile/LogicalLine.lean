/-
Logical lines: physical lines joined by trailing backslashes, together with the
heredoc bodies that follow them. The assembly reads one physical line at a time
and keeps what it has of the current logical line in a state, so what it does with
a document is one walk over the lines, and a walk over two documents one after the
other is two walks.
-/
import ContainerLint.Dockerfile.Error
import ContainerLint.Dockerfile.Heredoc
import ContainerLint.Text.Case

namespace ContainerLint.Dockerfile

open ContainerLint.Text

/-- A logical line. -/
structure LogicalLine where
  /-- The number of its first physical line, from one. -/
  line : Nat
  /-- Its text: the parts, trimmed, with a space between neighbours. -/
  text : List Char
  /-- Its physical lines, heredoc bodies included. -/
  physical : List (List Char)
  /-- The bodies of its heredocs. -/
  bodies : List (List Char)
  deriving Repr, DecidableEq

namespace LogicalLine

/-- The physical lines as they stand. -/
def source (l : LogicalLine) : List Char :=
  join ['\n'] l.physical

end LogicalLine

/-- The instructions whose heredoc markers have bodies. -/
def heredocKeywords : List String := ["RUN", "COPY", "ADD"]

/-- The line is a comment, blanks before the sign aside. -/
def isCommentLine (raw : List Char) : Bool :=
  (trim raw).head? == some '#'

/-- The text before a trailing backslash, blanks after the backslash aside. -/
def continued? (raw : List Char) : Option (List Char) :=
  match (trimRight raw).reverse with
  | '\\' :: front => some front.reverse
  | _ => none

/-- The text of a logical line: its parts that are not blank, trimmed and joined. -/
def joinParts (parts : List (List Char)) : List Char :=
  join [' '] ((parts.map trim).filter (!·.isEmpty))

/-- The markers of a logical line that call for bodies. -/
def markersOf (text : List Char) : List Marker :=
  match cutWord text with
  | some (word, _) =>
    if heredocKeywords.contains (upper (String.ofList word)) then Marker.findAll text else []
  | none => []

/-- What the assembly has of the current logical line. Lists are kept last first. -/
inductive Assembly where
  /-- No logical line is open. -/
  | idle
  /-- The last part ended in a backslash. -/
  | joining (line : Nat) (physical parts : List (List Char))
  /-- The text is complete and the body of `marker` is being read; `waiting` are the
  markers after it, `body` its lines so far and `bodies` those of the markers before. -/
  | heredoc (line : Nat) (text : List Char) (physical : List (List Char)) (marker : Marker)
      (waiting : List Marker) (body bodies : List (List Char))
  deriving Repr, DecidableEq

namespace Assembly

/-- Goes on after the text or a body is complete: with the next body, or with the
finished logical line. -/
def afterText (line : Nat) (text : List Char) (physical : List (List Char))
    (waiting : List Marker) (bodies : List (List Char)) : Assembly × Option LogicalLine :=
  match waiting with
  | [] => (.idle, some ⟨line, text, physical.reverse, bodies.reverse⟩)
  | marker :: waiting => (.heredoc line text physical marker waiting [] bodies, none)

/-- Takes a part of the logical line that starts at `line`. -/
def addPart (line : Nat) (physical parts : List (List Char)) (raw : List Char) :
    Assembly × Option LogicalLine :=
  match continued? raw with
  | some front => (.joining line (raw :: physical) (front :: parts), none)
  | none =>
    let text := joinParts (trimRight raw :: parts).reverse
    afterText line text (raw :: physical) (markersOf text) []

/-- Takes the physical line with the given number. -/
def step (state : Assembly) (number : Nat) (raw : List Char) : Assembly × Option LogicalLine :=
  match state with
  | .idle =>
    if allBlank raw then (.idle, none)
    else if isCommentLine raw then (.idle, some ⟨number, trim raw, [raw], []⟩)
    else addPart number [] [] raw
  | .joining line physical parts =>
    if isCommentLine raw then (.joining line (raw :: physical) parts, none)
    else addPart line physical parts raw
  | .heredoc line text physical marker waiting body bodies =>
    if marker.closes raw then
      afterText line text (raw :: physical) waiting (join ['\n'] body.reverse :: bodies)
    else
      let body := marker.bodyLine raw :: body
      (.heredoc line text (raw :: physical) marker waiting body bodies, none)

/-- What is left when the document ends: a logical line whose last part ends in a
backslash is complete, a heredoc without its end is not. -/
def finish : Assembly → List (Except ParseError LogicalLine)
  | .idle => []
  | .joining line physical parts =>
    let text := joinParts parts.reverse
    match markersOf text with
    | [] => [.ok ⟨line, text, physical.reverse, []⟩]
    | marker :: _ =>
      [.error (.malformed (.unterminatedHeredoc (String.ofList marker.word)) line none)]
  | .heredoc line _ _ marker _ _ _ =>
    [.error (.malformed (.unterminatedHeredoc (String.ofList marker.word)) line none)]

/-- The logical lines of the rest of a document, the next physical line having the
given number. -/
def run (state : Assembly) (number : Nat) : List (List Char) → List (Except ParseError LogicalLine)
  | [] => state.finish
  | raw :: lines =>
    match state.step number raw with
    | (next, some line) => .ok line :: next.run (number + 1) lines
    | (next, none) => next.run (number + 1) lines

end Assembly

/-- The logical lines of a document's physical lines. An error, if there is one, is
the last entry. -/
def logicalLines (lines : List (List Char)) : List (Except ParseError LogicalLine) :=
  Assembly.idle.run 1 lines

end ContainerLint.Dockerfile
