/-
Scalars in quotes. Between apostrophes only a doubled apostrophe is special;
between double quotes a backslash starts an escape. Breaks of the line fold as in
plain scalars, and no separator of documents may start a line.
-/
import ContainerLint.Yaml.Plain

namespace ContainerLint.Yaml

/-- The character that a letter after a backslash stands for. -/
def escapeOf : Char → Option Char
  | '0' => some '\x00'
  | 'a' => some '\x07'
  | 'b' => some '\x08'
  | 't' => some '\t'
  | '\t' => some '\t'
  | 'n' => some '\n'
  | 'v' => some '\x0b'
  | 'f' => some '\x0c'
  | 'r' => some '\r'
  | 'e' => some '\x1b'
  | ' ' => some ' '
  | '"' => some '"'
  | '/' => some '/'
  | '\\' => some '\\'
  | 'N' => some '\u0085'
  | '_' => some '\u00a0'
  | 'L' => some '\u2028'
  | 'P' => some '\u2029'
  | _ => none

/-- The number of hexadecimal digits after a letter that starts a numeric escape. -/
def escapeWidth : Char → Option Nat
  | 'x' => some 2
  | 'u' => some 4
  | 'U' => some 8
  | _ => none

/-- The first of the next `width` characters that is no hexadecimal digit. -/
def badHex (c : Cursor) (width : Nat) : Option (Option Char) :=
  (List.range width).findSome? fun k =>
    match c.peekAt k with
    | some ch => if isHex ch then none else some (some ch)
    | none => some none

/-- The character with a number that is one, or the second half of a pair of numbers
that write one character together. -/
def charOfEscape (code : Nat) (c : Cursor) : Char × Cursor :=
  if 0xD800 ≤ code && code < 0xDC00 then
    match c.rest with
    | '\\' :: 'u' :: rest =>
      let low := hexNumber (rest.take 4)
      if badHex (c.skip 2) 4 == none && 0xDC00 ≤ low && low < 0xE000 then
        (Char.ofNat (0x10000 + (code - 0xD800) * 0x400 + (low - 0xDC00)), c.skip 6)
      else ('\uFFFD', c)
    | _ => ('\uFFFD', c)
  else if 0xDC00 ≤ code && code < 0xE000 then ('\uFFFD', c)
  else (Char.ofNat code, c)

/-- The breaks of the blank lines inside quotes. -/
def quotedBreaks (start : Mark) : Nat → List Char → Cursor → Except Error (List Char × Cursor)
  | 0, breaks, c => .ok (breaks, c)
  | fuel + 1, breaks, c =>
    if c.atSeparator then .error (.marked (some (.quotedScalar, start)) .documentSeparator c.mark)
    else
      let c := c.skipRun fun ch => ch == ' ' || ch == '\t'
      match c.lineBreak? with
      | some (ch, c) => quotedBreaks start fuel (breaks ++ [ch]) c
      | none => .ok (breaks, c)

/-- The escape after a backslash. -/
def scanEscape (start : Mark) (c : Cursor) : Except Error (List Char × Cursor) :=
  match c.peek with
  | none => .error (.marked (some (.doubleQuoted, start)) (.unknownEscape none) c.mark)
  | some ch =>
    match escapeOf ch, escapeWidth ch with
    | some meaning, _ => .ok ([meaning], c.next)
    | none, some width =>
      let c := c.next
      match badHex c width with
      | some found =>
        .error (.marked (some (.doubleQuoted, start)) (.expected (.hexEscape width) found) c.mark)
      | none =>
        let code := hexNumber (c.rest.take width)
        if 0x10FFFF < code then .error (.fault (.character code))
        else
          let (meaning, c) := charOfEscape code (c.skip width)
          .ok ([meaning], c)
    | none, none =>
      match c.lineBreak? with
      | some (_, c) => quotedBreaks start (c.rest.length + 1) [] c
      | none => .error (.marked (some (.doubleQuoted, start)) (.unknownEscape (some ch)) c.mark)

/-- The characters inside quotes up to a blank, a break or the closing quote. -/
def quotedRun (double : Bool) (start : Mark) :
    Nat → List Char → Cursor → Except Error (List Char × Cursor)
  | 0, text, c => .ok (text, c)
  | fuel + 1, text, c =>
    match c.rest with
    | [] => .ok (text, c)
    | ch :: rest =>
      if !double && ch == '\'' && rest.head? == some '\'' then
        quotedRun double start fuel (text ++ ['\'']) (c.skip 2)
      else if (double && ch == '\'') || (!double && (ch == '"' || ch == '\\')) then
        quotedRun double start fuel (text ++ [ch]) c.next
      else if double && ch == '\\' then do
        let (meaning, c) ← scanEscape start c.next
        quotedRun double start fuel (text ++ meaning) c
      else if ch == ' ' || ch == '\t' || ch == '\'' || ch == '"' || isBreak ch then .ok (text, c)
      else quotedRun double start fuel (text ++ [ch]) c.next

/-- The blanks inside quotes, folded if they break the line. -/
def quotedBlanks (start : Mark) (c : Cursor) : Except Error (List Char × Cursor) :=
  let isBlank := fun ch => ch == ' ' || ch == '\t'
  let blanks := c.run isBlank
  let c := c.skipRun isBlank
  match c.peek, c.lineBreak? with
  | none, _ => .error (.marked (some (.quotedScalar, start)) .endOfStream c.mark)
  | some _, some (first, c) => do
    let (breaks, c) ← quotedBreaks start (c.rest.length + 1) [] c
    return (foldBreaks first breaks, c)
  | some _, none => .ok (blanks, c)

/-- The rest of a scalar in quotes. -/
def quotedParts (double : Bool) (quote : Char) (start : Mark) :
    Nat → List Char → Cursor → Except Error (List Char × Cursor)
  | 0, text, c => .ok (text, c)
  | fuel + 1, text, c =>
    if c.isAt quote then .ok (text, c.next)
    else do
      let (blanks, c) ← quotedBlanks start c
      let (part, c) ← quotedRun double start (c.rest.length + 1) [] c
      quotedParts double quote start fuel (text ++ blanks ++ part) c

/-- A scalar in quotes at a cursor. -/
def scanQuoted (double : Bool) (c : Cursor) : Except Error (Scanned × Cursor) := do
  let start := c.mark
  let quote := if double then '"' else '\''
  let (first, c) ← quotedRun double start (c.rest.length + 1) [] c.next
  let (text, c) ← quotedParts double quote start (c.rest.length + 1) first c
  return (⟨text, c.mark⟩, c)

end ContainerLint.Yaml
