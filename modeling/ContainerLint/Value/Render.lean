/-
Values as text. A value is *plain* where it stands for itself, as in a field that
takes any text, and *shown* where it stands among others or in a message, where
texts are in quotes and dates name their kind. A value that holds itself is shown
down to the place where it comes again. A number of too many digits has no text.
-/
import ContainerLint.Text.Cut
import ContainerLint.Text.Digit
import ContainerLint.Value.Basic

namespace ContainerLint.Value

open ContainerLint.Text

/-- One byte of a byte text, in the given quotes. -/
def showByte (quote : Char) (b : UInt8) : List Char :=
  if b < 128 && (b ≥ 32 && b != 127 || b == 9 || b == 10 || b == 13) then
    quoteChar quote (Char.ofNat b.toNat)
  else '\\' :: 'x' :: hexPadded 2 b.toNat

/-- A byte text in quotes. -/
def showBytes (bs : List UInt8) : String :=
  let mark := if bs.contains 39 && !bs.contains 34 then '"' else '\''
  String.ofList ('b' :: mark :: bs.flatMap (showByte mark) ++ [mark])

/-- A date with the name of its kind. -/
def showDate (d : Date) : String :=
  "datetime.date(" ++ toString d.year ++ ", " ++ toString d.month ++ ", " ++ toString d.day ++ ")"

/-- A zone with the name of its kind. -/
def showZone (z : Zone) : String :=
  "datetime.timezone(" ++ showSpan z.offset ++ ", " ++ quoted z.name ++ ")"

/-- A moment with the name of its kind, without the parts at the end that are zero. -/
def showMoment (m : Moment) : String :=
  let numbers := [m.date.year, m.date.month, m.date.day, m.hour, m.minute] ++
    (if m.microsecond != 0 then [m.second, m.microsecond]
     else if m.second != 0 then [m.second] else [])
  let zone := match m.zone with
    | some z => ["tzinfo=" ++ showZone z]
    | none => []
  let name := if m.form == .loose then "datetime.datetime(" else "TimeStamp("
  name ++ joinWith ", " (numbers.map toString ++ zone) ++ ")"

/-- The mark of a way to write scalars; plain ones have none. -/
def showStyle : ScalarStyle → String
  | .plain => "None"
  | .singleQuoted => quoted "'"
  | .doubleQuoted => quoted "\""
  | .literal => quoted "|"
  | .folded => quoted ">"

/-- A scalar under a tag, with all that is known of it. -/
def showTagged (t : TaggedText) : String :=
  "TaggedScalar(value=" ++ quoted t.text ++ ", style=" ++ showStyle t.style ++ ", tag=Tag(" ++
    quoted t.tag ++ "))"

/-- Values between brackets of a kind. -/
def enclosed (opening closing : String) (parts : List String) : String :=
  opening ++ joinWith ", " parts ++ closing

/-- Values between parentheses; a single one has a comma after it. -/
def enclosedTuple : List String → String
  | [part] => "(" ++ part ++ ",)"
  | parts => enclosed "(" ")" parts

/-- The entries of an ordered mapping, as pairs, under its name. -/
def enclosedOrdered (pairs : List String) : String :=
  "ordereddict(" ++ (if pairs.isEmpty then "" else enclosed "[" "]" pairs) ++ ")"

/-- What stands for a value where it comes again inside itself. -/
def ellipsis : Shape → String
  | .list => "[...]"
  | .map => "\x7b...\x7d"
  | .ordered => "..."

/-- What a knot is. -/
def shape : Value → Shape
  | .list _ | .again _ .list => .list
  | .ordered _ | .again _ .ordered => .ordered
  | _ => .map

mutual

/-- The value as it stands among others, inside the knots of the given numbers. -/
def shownIn (inside : List Nat) : Value → Except NumeralError String
  | .null => .ok "None"
  | .bool b => .ok (if b then "True" else "False")
  | .int n => writeInt n
  | .float x => .ok x.render
  | .text s => .ok (quoted s)
  | .date d => .ok (showDate d)
  | .moment m => .ok (showMoment m)
  | .bytes bs => .ok (showBytes bs)
  | .list items => return enclosed "[" "]" (← allShown inside items)
  | .tuple items => return enclosedTuple (← allShown inside items)
  | .map entries => return enclosed "\x7b" "\x7d" (← entriesShown inside entries)
  | .ordered entries => return enclosedOrdered (← pairsShown inside entries)
  | .frozen entries => return enclosedOrdered (← pairsShown inside entries)
  | .set items =>
    if items.isEmpty then .ok "set()"
    else do return enclosed "\x7b" "\x7d" (← allShown inside items)
  | .orderedSet items => return enclosed "set(odict_keys([" "]))" (← allShown inside items)
  | .tagged t => .ok (showTagged t)
  | .knot id inner =>
    if inside.contains id then .ok (ellipsis inner.shape) else shownIn (id :: inside) inner
  | .again _ shape => .ok (ellipsis shape)

/-- Each value as it stands among others. -/
def allShown (inside : List Nat) : List Value → Except NumeralError (List String)
  | [] => .ok []
  | v :: vs => return (← shownIn inside v) :: (← allShown inside vs)

/-- Each entry of a mapping, key and value as they stand among others. -/
def entriesShown (inside : List Nat) : List (Value × Value) → Except NumeralError (List String)
  | [] => .ok []
  | (k, v) :: entries => do
    let entry := (← shownIn inside k) ++ ": " ++ (← shownIn inside v)
    return entry :: (← entriesShown inside entries)

/-- Each entry of a mapping whose order is part of it, as a pair. -/
def pairsShown (inside : List Nat) : List (Value × Value) → Except NumeralError (List String)
  | [] => .ok []
  | (k, v) :: entries => do
    let pair := enclosedTuple [← shownIn inside k, ← shownIn inside v]
    return pair :: (← pairsShown inside entries)

end

/-- The value as it stands among others. -/
def shown (v : Value) : Except NumeralError String :=
  shownIn [] v

/-- The value as it stands for itself. -/
def plain : Value → Except NumeralError String
  | .text s => .ok s
  | .date d => .ok d.render
  | .moment m => .ok m.render
  | .tagged t => .ok t.text
  | v => v.shown

/-- The value as text, or nothing if it is absent. -/
def plain? : Value → Except NumeralError (Option String)
  | .null => .ok none
  | v => v.plain.map some

end ContainerLint.Value
