/-
The exec form of instruction arguments: a JSON array whose items are all strings,
and nothing after it. Any other text, an array of other values included, is not
the exec form. The reader walks the text one character at a time.
-/
namespace ContainerLint.Dockerfile.ExecForm

/-- Where the reader stands in the array. -/
inductive Place where
  /-- Before the opening bracket. -/
  | start
  /-- After the opening bracket: an item or the end may follow. -/
  | opened
  /-- After a comma: an item must follow. -/
  | comma
  /-- Inside a string. -/
  | text
  /-- After a backslash inside a string. -/
  | escape
  /-- Inside a four-digit escape, with the digits still to come and their value so far. -/
  | code (missing value : Nat)
  /-- After a string. -/
  | item
  /-- After the closing bracket. -/
  | closed
  deriving Repr, DecidableEq

/-- The blanks between the tokens of an array. -/
def isGap (c : Char) : Bool :=
  c == ' ' || c == '\t' || c == '\n' || c == '\r'

/-- The character of a one-letter escape. -/
def escaped? (c : Char) : Option Char :=
  match c with
  | '"' => some '"'
  | '\\' => some '\\'
  | '/' => some '/'
  | 'b' => some (Char.ofNat 8)
  | 'f' => some (Char.ofNat 12)
  | 'n' => some '\n'
  | 'r' => some '\r'
  | 't' => some '\t'
  | _ => none

/-- The value of a hexadecimal digit. -/
def hexValue? (c : Char) : Option Nat :=
  if '0' ≤ c ∧ c ≤ '9' then some (c.toNat - 48)
  else if 'a' ≤ c ∧ c ≤ 'f' then some (c.toNat - 87)
  else if 'A' ≤ c ∧ c ≤ 'F' then some (c.toNat - 55)
  else none

/-- What is known of the current string: its characters, last first, and the first
half of a surrogate pair that still waits for its second half. -/
structure Pending where
  /-- The characters so far, last first. -/
  chars : List Char := []
  /-- The waiting first half. -/
  high : Option Nat := none

namespace Pending

/-- Gives up waiting: a half without its partner becomes the replacement character. -/
def settle (p : Pending) : List Char :=
  match p.high with
  | some _ => Char.ofNat 0xFFFD :: p.chars
  | none => p.chars

/-- Adds a character. -/
def push (p : Pending) (c : Char) : Pending :=
  { chars := c :: p.settle }

/-- Adds a code unit: the second half of a pair joins a waiting first half. -/
def pushUnit (p : Pending) (n : Nat) : Pending :=
  if 0xD800 ≤ n ∧ n < 0xDC00 then { chars := p.settle, high := some n }
  else if 0xDC00 ≤ n ∧ n < 0xE000 then
    match p.high with
    | some h => { chars := Char.ofNat (0x10000 + (h - 0xD800) * 1024 + (n - 0xDC00)) :: p.chars }
    | none => p.push (Char.ofNat 0xFFFD)
  else p.push (Char.ofNat n)

end Pending

/-- The items of the rest of an array, after the items read so far. -/
def scan : Place → Pending → List String → List Char → Option (List String)
  | .closed, _, items, [] => some items.reverse
  | _, _, _, [] => none
  | .start, p, items, c :: cs => if c == '[' then scan .opened p items cs else none
  | .opened, p, items, c :: cs =>
    if isGap c then scan .opened p items cs
    else if c == ']' then scan .closed p items cs
    else if c == '"' then scan .text {} items cs
    else none
  | .comma, p, items, c :: cs =>
    if isGap c then scan .comma p items cs
    else if c == '"' then scan .text {} items cs
    else none
  | .text, p, items, c :: cs =>
    if c == '"' then scan .item {} (String.ofList p.settle.reverse :: items) cs
    else if c == '\\' then scan .escape p items cs
    else if c.toNat < 32 then none
    else scan .text (p.push c) items cs
  | .escape, p, items, c :: cs =>
    if c == 'u' then scan (.code 4 0) p items cs
    else match escaped? c with
      | some e => scan .text (p.push e) items cs
      | none => none
  | .code missing value, p, items, c :: cs =>
    match hexValue? c with
    | some d =>
      if missing ≤ 1 then scan .text (p.pushUnit (value * 16 + d)) items cs
      else scan (.code (missing - 1) (value * 16 + d)) p items cs
    | none => none
  | .item, p, items, c :: cs =>
    if isGap c then scan .item p items cs
    else if c == ',' then scan .comma p items cs
    else if c == ']' then scan .closed p items cs
    else none
  | .closed, p, items, c :: cs => if isGap c then scan .closed p items cs else none

/-- The items of a text in exec form. -/
def read? (cs : List Char) : Option (List String) :=
  scan .start {} [] cs

end ContainerLint.Dockerfile.ExecForm
