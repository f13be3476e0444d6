/-
The tokens of a chart template: text, actions between double braces, and comments.
The scanner walks over the text once, one character at a time; every character
but those of an action that never closes belongs to exactly one token.
-/
import ContainerLint.Template.Control

namespace ContainerLint.Template

open ContainerLint.Text

/-- A piece of a template, with the line it starts on. -/
inductive Token where
  /-- Text that is rendered as it stands. -/
  | text (content : String) (line : Nat)
  /-- An action, with the trim markers it has. -/
  | action (content : String) (line : Nat) (trimLeft trimRight : Bool)
  /-- A comment, with the trim markers it has. -/
  | comment (content : String) (line : Nat) (trimLeft trimRight : Bool)
  deriving Repr, DecidableEq

namespace Token

/-- The content of a token. -/
def content : Token → String
  | .text content _ => content
  | .action content .. => content
  | .comment content .. => content

/-- The line that a token starts on. -/
def line : Token → Nat
  | .text _ line => line
  | .action _ line .. => line
  | .comment _ line .. => line

/-- The kind of control that a token is. -/
def control? : Token → Option Control
  | .action content .. => Control.classify? content
  | _ => none

/-- The token in a normal form: one space inside the braces and no trim markers. -/
def render : Token → String
  | .text content _ => content
  | .action content .. => "\x7b\x7b " ++ content ++ " \x7d\x7d"
  | .comment content .. => "\x7b\x7b/* " ++ content ++ " */\x7d\x7d"

end Token

/-! ## The scanner -/

/-- Where the scanner stands. Collected characters are kept last first. -/
inductive Place where
  /-- In text that started on `line`. -/
  | text (collected : List Char) (line : Nat)
  /-- In an action that opened on `line`. -/
  | body (collected : List Char) (line : Nat) (trimLeft : Bool)
  deriving Repr, DecidableEq

/-- The token of collected text; no text makes no token. -/
def textToken (collected : List Char) (line : Nat) : List Token :=
  if collected.isEmpty then [] else [.text (String.ofList collected.reverse) line]

/-- The body of an action without its closing trim marker, and whether it has one: a
dash at the end, alone or after a blank. -/
def cutTrimMarker : List Char → List Char × Bool
  | ['-'] => ([], true)
  | '-' :: c :: collected =>
    if isBlank c then (c :: collected, true) else ('-' :: c :: collected, false)
  | collected => (collected, false)

/-- The body is a comment: after spaces and tabs, a slash and a star. -/
def opensComment (body : List Char) : Bool :=
  ['/', '*'].isPrefixOf (body.dropWhile fun c => c == ' ' || c == '\t')

/-- A comment's content: without blanks, then slashes and stars, then blanks at either
end. -/
def commentContent (body : List Char) : List Char :=
  trim (dropEnds (fun c => c == '/' || c == '*') (trim body))

/-- The token of a closed action. -/
def bodyToken (collected : List Char) (line : Nat) (trimLeft : Bool) : Token :=
  let (kept, trimRight) := cutTrimMarker collected
  let body := kept.reverse
  if opensComment body then .comment (String.ofList (commentContent body)) line trimLeft trimRight
  else .action (String.ofList (trim body)) line trimLeft trimRight

/-- A dash that opens an action trims to the left if a blank or the end follows it. -/
def trimsLeft : List Char → Bool
  | [] => true
  | c :: _ => isBlank c

/-- The line after a character. -/
def nextLine (line : Nat) (c : Char) : Nat :=
  if c == '\n' then line + 1 else line

/-- The tokens of the rest of a template, `line` being the line of its next character,
and the line of an action that never closes. -/
def scan : Place → Nat → List Char → List Token × Option Nat
  | .text collected start, _, [] => (textToken collected start, none)
  | .body _ start _, _, [] => ([], some start)
  | .text collected start, line, '{' :: '{' :: '-' :: cs =>
    let (tokens, unclosed) :=
      if trimsLeft cs then scan (.body [] line true) line cs
      else scan (.body ['-'] line false) line cs
    (textToken collected start ++ tokens, unclosed)
  | .text collected start, line, '{' :: '{' :: cs =>
    let (tokens, unclosed) := scan (.body [] line false) line cs
    (textToken collected start ++ tokens, unclosed)
  | .text collected start, line, c :: cs =>
    scan (.text (c :: collected) start) (nextLine line c) cs
  | .body collected start trimLeft, line, '}' :: '}' :: cs =>
    let (tokens, unclosed) := scan (.text [] line) line cs
    (bodyToken collected start trimLeft :: tokens, unclosed)
  | .body collected start trimLeft, line, c :: cs =>
    scan (.body (c :: collected) start trimLeft) (nextLine line c) cs

end ContainerLint.Template
