/-
A cursor over a document: what is left to read, and the place it is at. The end of
the document is the absence of a character.
-/
import ContainerLint.Yaml.Error

namespace ContainerLint.Yaml

/-! ## Classes of characters -/

/-- A character that breaks a line. -/
def isBreak (c : Char) : Bool :=
  c == '\n' || c == '\r' || c == '\u0085' || c == '\u2028' || c == '\u2029'

/-- The end of a line or of the document. -/
def endsLine : Option Char → Bool
  | none => true
  | some c => isBreak c

/-- The end of a word: a space, a tab, or the end of the line. -/
def endsWord : Option Char → Bool
  | some ' ' | some '\t' => true
  | c => endsLine c

/-- The end of an indicator: a space, or the end of the line. -/
def endsItem : Option Char → Bool
  | some ' ' => true
  | c => endsLine c

/-- A letter or digit of the basic alphabet. -/
def isBasic (c : Char) : Bool :=
  c.isAlphanum

/-- A hexadecimal digit. -/
def isHex (c : Char) : Bool :=
  c.isDigit || ('a' ≤ c && c ≤ 'f') || ('A' ≤ c && c ≤ 'F')

/-- The value of a hexadecimal digit. -/
def hexValue (c : Char) : Nat :=
  if c.isDigit then c.toNat - 48
  else if 'a' ≤ c then c.toNat - 87
  else c.toNat - 55

/-- The number that a run of hexadecimal digits writes. -/
def hexNumber (cs : List Char) : Nat :=
  cs.foldl (fun n c => 16 * n + hexValue c) 0

/-! ## The cursor -/

/-- A place in a document and the text from there on. -/
structure Cursor where
  mark : Mark
  rest : List Char
  deriving Repr, DecidableEq

namespace Cursor

/-- The cursor at the start of a document. -/
def ofText (document : List Char) : Cursor :=
  ⟨Mark.start, document⟩

/-- The next character. -/
def peek (c : Cursor) : Option Char :=
  c.rest.head?

/-- The character a number of places ahead. -/
def peekAt (c : Cursor) (n : Nat) : Option Char :=
  c.rest[n]?

/-- The next character is the given one. -/
def isAt (c : Cursor) (ch : Char) : Bool :=
  c.peek == some ch

/-- The cursor past the next character. -/
def next (c : Cursor) : Cursor :=
  match c.rest with
  | [] => c
  | ch :: rest => ⟨c.mark.past ch rest.head?, rest⟩

/-- The cursor past a number of characters. -/
def skip (c : Cursor) : Nat → Cursor
  | 0 => c
  | n + 1 => c.next.skip n

/-- The run of characters of a class. -/
def run (p : Char → Bool) (c : Cursor) : List Char :=
  c.rest.takeWhile p

/-- The cursor past the run of characters of a class. -/
def skipRun (p : Char → Bool) (c : Cursor) : Cursor :=
  c.skip (c.run p).length

/-- The cursor past spaces. -/
def skipSpaces (c : Cursor) : Cursor :=
  c.skipRun (· == ' ')

/-- The line break at the cursor, if there is one, and the cursor past it. A carriage
return with a line feed is one break; all but the Unicode separators become a line
feed. -/
def lineBreak? (c : Cursor) : Option (Char × Cursor) :=
  match c.rest with
  | '\r' :: '\n' :: _ => some ('\n', c.skip 2)
  | ch :: _ =>
    if ch == '\n' || ch == '\r' || ch == '\u0085' then some ('\n', c.next)
    else if isBreak ch then some (ch, c.next)
    else none
  | [] => none

/-- The cursor past the line break at it, if there is one. -/
def skipBreak (c : Cursor) : Cursor :=
  match c.lineBreak? with
  | some (_, c) => c
  | none => c

/-- The line breaks at the cursor, and the cursor past them. Fuel is the number of
characters left. -/
def lineBreaks : Nat → Cursor → List Char × Cursor
  | 0, c => ([], c)
  | fuel + 1, c =>
    match c.lineBreak? with
    | some (ch, c) =>
      let (rest, c) := lineBreaks fuel c
      (ch :: rest, c)
    | none => ([], c)

/-- The line breaks, spaces and tabs at the cursor, and the cursor past them. Fuel is the
number of characters left. -/
def emptyLines : Nat → Cursor → List Char × Cursor
  | 0, c => ([], c)
  | fuel + 1, c =>
    match c.lineBreak?, c.rest with
    | some (ch, c), _ =>
      let (rest, c) := emptyLines fuel c
      (ch :: rest, c)
    | none, ch :: _ =>
      if ch == ' ' || ch == '\t' then
        let (rest, c) := emptyLines fuel c.next
        (ch :: rest, c)
      else ([], c)
    | none, [] => ([], c)

/-- The cursor past a comment, up to the end of its line. -/
def skipComment (c : Cursor) : Cursor :=
  if c.isAt '#' then c.skipRun fun ch => !endsLine (some ch) else c

/-- Three dashes stand here, and a word ends after them. -/
def atDocumentStart (c : Cursor) : Bool :=
  ['-', '-', '-'].isPrefixOf c.rest && endsWord (c.peekAt 3)

/-- Three dots stand here, and a word ends after them. -/
def atDocumentEnd (c : Cursor) : Bool :=
  ['.', '.', '.'].isPrefixOf c.rest && endsWord (c.peekAt 3)

/-- A separator of documents stands here. -/
def atSeparator (c : Cursor) : Bool :=
  c.atDocumentStart || c.atDocumentEnd

end Cursor

end ContainerLint.Yaml
