/-
Block scalars: literal ones keep their line breaks, folded ones join lines that
start at the same column. The header may fix the indentation and say what becomes
of the line breaks at the end.
-/
import ContainerLint.Yaml.Quoted

namespace ContainerLint.Yaml

/-- What becomes of the line breaks at the end of a block scalar. -/
inductive Chomping where
  /-- One is kept. -/
  | clip
  /-- None is kept. -/
  | strip
  /-- All are kept. -/
  | keep
  deriving Repr, DecidableEq

/-- The chomping that a character asks for. -/
def Chomping.ofChar? : Option Char → Option Chomping
  | some '+' => some .keep
  | some '-' => some .strip
  | _ => none

/-- The digit at a cursor, as a number. -/
def digitAt? (c : Cursor) : Option Nat :=
  match c.peek with
  | some ch => if ch.isDigit then some (ch.toNat - 48) else none
  | none => none

/-- The indentation indicator at a cursor, if there is one. -/
def scanIncrement (start : Mark) (c : Cursor) : Except Error (Option Nat × Cursor) :=
  match digitAt? c with
  | none => .ok (none, c)
  | some 0 => .error (.marked (some (.blockScalar, start)) .zeroIndentation c.mark)
  | some n => .ok (some n, c.next)

/-- The indicators of a header, in either order. -/
def scanIndicators (start : Mark) (c : Cursor) :
    Except Error ((Chomping × Option Nat) × Cursor) := do
  let (found, c) ← match Chomping.ofChar? c.peek with
    | some chomping => do
      let (increment, c) ← scanIncrement start c.next
      pure ((chomping, increment), c)
    | none => do
      let (increment, c) ← scanIncrement start c
      match increment, Chomping.ofChar? c.peek with
      | some n, some chomping => pure ((chomping, some n), c.next)
      | increment, _ => pure ((.clip, increment), c)
  if endsItem c.peek then return (found, c)
  else .error (.marked (some (.blockScalar, start)) (.expected .blockIndicator c.peek) c.mark)

/-- The rest of a header line: spaces, a comment and the break. The result has the comment
with the spaces before it. -/
def scanHeader (activity : Activity) (start : Mark) (c : Cursor) :
    Except Error (Option (List Char) × Cursor) :=
  let spaces := c.run (· == ' ')
  let c := c.skipSpaces
  let comment := if c.isAt '#' then c.run fun ch => !endsLine (some ch) else []
  let c := c.skip comment.length
  if endsLine c.peek then
    .ok (if comment.isEmpty then none else some (spaces ++ comment), c.skipBreak)
  else .error (.marked (some (activity, start)) (.expected .commentOrBreak c.peek) c.mark)

/-- The cursor past spaces, up to a column. -/
def skipToColumn (column : Nat) (c : Cursor) : Cursor :=
  c.skip (min (c.run (· == ' ')).length (column - c.mark.column))

/-- The blank lines before the first line of a block scalar: their breaks, the
greatest column that spaces reach, and the column of the first break. -/
def firstBlankLines : Nat → List Char → Nat → Option Nat → Mark → Cursor →
    (List Char × Nat × Option Nat × Mark) × Cursor
  | 0, breaks, reach, first, stop, c => ((breaks, reach, first, stop), c)
  | fuel + 1, breaks, reach, first, stop, c =>
    if c.isAt ' ' then
      let c := c.next
      firstBlankLines fuel breaks (max reach c.mark.column) first stop c
    else match c.lineBreak? with
      | some (ch, after) =>
        firstBlankLines fuel (breaks ++ [ch]) reach (first.or (some c.mark.column)) after.mark after
      | none => ((breaks, reach, first, stop), c)

/-- The blank lines after a line of a block scalar. -/
def blockBreaks (indent : Nat) : Nat → List Char → Mark → Cursor → (List Char × Mark) × Cursor
  | 0, breaks, stop, c => ((breaks, stop), c)
  | fuel + 1, breaks, stop, c =>
    match c.lineBreak? with
    | some (ch, c) => blockBreaks indent fuel (breaks ++ [ch]) c.mark (skipToColumn indent c)
    | none => ((breaks, stop), c)

/-- The text of a block scalar so far, the last break and the blank lines after it. -/
structure BlockText where
  text : List Char
  last : List Char
  breaks : List Char
  stop : Mark
  deriving Repr, DecidableEq

/-- The lines of a block scalar from one of them on. -/
def blockLines (folded atTop : Bool) (indent : Nat) : Nat → BlockText → Cursor → BlockText × Cursor
  | 0, b, c => (b, c)
  | fuel + 1, b, c =>
    if c.mark.column != indent || c.peek.isNone then (b, c)
    else
      let startsBlank := c.isAt ' ' || c.isAt '\t'
      let line := c.run fun ch => !endsLine (some ch)
      let c := c.skip line.length
      let (last, c) := match c.lineBreak? with
        | some (ch, c) => ([ch], c)
        | none => ([], c)
      let ((breaks, stop), c) :=
        blockBreaks indent (c.rest.length + 1) [] c.mark (skipToColumn indent c)
      let text := b.text ++ b.breaks ++ line
      let separated := atTop && c.mark.column == 0 && c.atSeparator
      if separated || c.mark.column != indent || c.peek.isNone then
        (⟨text, last, breaks, stop⟩, c)
      else
        let joins := folded && last == ['\n'] && !startsBlank && !(c.isAt ' ' || c.isAt '\t')
        let between := if joins then (if breaks.isEmpty then [' '] else []) else last
        blockLines folded atTop indent fuel ⟨text ++ between, last, breaks, stop⟩ c

/-- A block scalar as it was scanned: the comment in its header, and the line breaks at
its end that were left out of its text. -/
structure ScannedBlock extends Scanned where
  header : Option (List Char)
  trailing : List Char
  deriving Repr, DecidableEq

/-- A block scalar at a cursor, in a block indented by `parent`. -/
def scanBlock (folded : Bool) (parent : Int) (c : Cursor) :
    Except Error (ScannedBlock × Cursor) := do
  let start := c.mark
  let ((chomping, increment), c) ← scanIndicators start c.next
  let (header, c) ← scanHeader .blockScalar start c
  let least := (parent + 1).toNat
  let fuel := c.rest.length + 1
  let ((breaks, stop), indent, c) ← match increment with
    | some n =>
      let indent := max least 1 + n - 1
      let (found, c) := blockBreaks indent fuel [] c.mark (skipToColumn indent c)
      pure (found, indent, c)
    | none => do
      let ((breaks, reach, first, stop), c) := firstBlankLines fuel [] 0 none c.mark c
      if 0 < first.getD 0 && first.getD 0 < reach then
        throw (.misplaced .indentedFollowUp c.mark)
      pure ((breaks, stop), max least reach, c)
  let atTop := least == 0 && increment.isNone
  let (b, c) := blockLines folded atTop indent fuel ⟨[], [], breaks, stop⟩ c
  let text := match chomping with
    | .strip => b.text
    | .clip => b.text ++ b.last
    | .keep => b.text ++ b.last ++ b.breaks
  return (⟨⟨text, b.stop⟩, header, if chomping == .keep then [] else b.breaks⟩, c)

end ContainerLint.Yaml
