/-
Heredoc markers: `<<WORD`, `<<-WORD` or with the word in quotes. A marker may not
follow a third angle bracket. The lines after the instruction, up to one that is
the word alone, are the marker's body; the dash form takes tabs off the front of
every line.
-/
import ContainerLint.Text.Alphanumeric
import ContainerLint.Text.Cut

namespace ContainerLint.Dockerfile

open ContainerLint.Text

/-- A heredoc marker. -/
structure Marker where
  /-- Tabs are taken off the front of the body's lines. -/
  stripTabs : Bool
  /-- The word that ends the body. -/
  word : List Char
  deriving Repr, DecidableEq

namespace Marker

/-- A character of the word after the first. -/
def isMarkerChar (c : Char) : Bool :=
  isWordChar c || c == '.' || c == '-'

/-- The word at the front of a text and the number of its characters. -/
def readWord? : List Char → Option (List Char × List Char)
  | c :: cs =>
    if c.isAlpha || c == '_' then
      some (c :: cs.takeWhile isMarkerChar, cs.dropWhile isMarkerChar)
    else none
  | [] => none

/-- The word at the front of a text, in quotes or not, and the text after it. -/
def readQuotedWord? : List Char → Option (List Char × List Char)
  | '"' :: cs => closeWith '"' cs
  | '\'' :: cs => closeWith '\'' cs
  | cs => readWord? cs
where
  /-- A word that the given quote closes. -/
  closeWith (quote : Char) (cs : List Char) : Option (List Char × List Char) :=
    match readWord? cs with
    | some (word, c :: rest) => if c == quote then some (word, rest) else none
    | _ => none

/-- The marker at the very front of a text, and the text after it. -/
def read? : List Char → Option (Marker × List Char)
  | '<' :: '<' :: '-' :: cs => (readQuotedWord? cs).map fun (word, rest) => (⟨true, word⟩, rest)
  | '<' :: '<' :: cs => (readQuotedWord? cs).map fun (word, rest) => (⟨false, word⟩, rest)
  | _ => none

/-- The markers of a text from left to right, `afterAngle` saying that an angle bracket
precedes it and `skip` how many of its characters belong to the last marker. -/
def findFrom (afterAngle : Bool) : Nat → List Char → List Marker
  | _, [] => []
  | skip + 1, c :: cs => findFrom (c == '<') skip cs
  | 0, c :: cs =>
    match if afterAngle then none else read? (c :: cs) with
    | some (marker, rest) =>
      marker :: findFrom (c == '<') (cs.length - rest.length) cs
    | none => findFrom (c == '<') 0 cs

/-- The markers of a text. -/
def findAll (cs : List Char) : List Marker :=
  findFrom false 0 cs

/-- The text is one marker and nothing else. -/
def isWhole (cs : List Char) : Bool :=
  match read? cs with
  | some (_, []) => true
  | _ => false

/-- A physical line as the marker's body takes it. -/
def bodyLine (m : Marker) (line : List Char) : List Char :=
  if m.stripTabs then line.dropWhile (· == '\t') else line

/-- The line ends the marker's body. -/
def closes (m : Marker) (line : List Char) : Bool :=
  trimRight (m.bodyLine line) == m.word

end Marker

end ContainerLint.Dockerfile
