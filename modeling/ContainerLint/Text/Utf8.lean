/-
Bytes as text. The lead byte of a character fixes the ranges of the bytes that must
follow it; the first byte outside of its range, or the end of the bytes, is an error
that blames the bytes of the character so far.
-/
import ContainerLint.Text.Cut
import ContainerLint.Text.Quoted

namespace ContainerLint.Text

/-- Why bytes are not text. -/
inductive Utf8Fault where
  | startByte
  | continuationByte
  | endOfData
  deriving Repr, DecidableEq

/-- Bytes that are not text: where they start, which they are, and why. -/
structure Utf8Error where
  start : Nat
  bytes : List UInt8
  fault : Utf8Fault
  deriving Repr, DecidableEq

/-- The wording of an error. -/
def Utf8Error.message (e : Utf8Error) : String :=
  let place := match e.bytes with
    | [b] => "byte 0x" ++ String.ofList (hexPadded 2 b.toNat) ++ " in position " ++ toString e.start
    | bs => "bytes in position " ++ toString e.start ++ "-" ++ toString (e.start + bs.length - 1)
  let reason := match e.fault with
    | .startByte => "invalid start byte"
    | .continuationByte => "invalid continuation byte"
    | .endOfData => "unexpected end of data"
  "'utf-8' codec can't decode " ++ place ++ ": " ++ reason

/-- The value that a lead byte starts, and the ranges of the bytes that must follow. -/
def leadByte? (b : Nat) : Option (Nat × List (Nat × Nat)) :=
  let tail := (0x80, 0xBF)
  if 0xC2 ≤ b && b ≤ 0xDF then some (b - 0xC0, [tail])
  else if b == 0xE0 then some (0, [(0xA0, 0xBF), tail])
  else if b == 0xED then some (0xD, [(0x80, 0x9F), tail])
  else if 0xE1 ≤ b && b ≤ 0xEF then some (b - 0xE0, [tail, tail])
  else if b == 0xF0 then some (0, [(0x90, 0xBF), tail, tail])
  else if b == 0xF4 then some (4, [(0x80, 0x8F), tail, tail])
  else if 0xF1 ≤ b && b ≤ 0xF3 then some (b - 0xF0, [tail, tail, tail])
  else none

/-- A character that has begun: its bytes so far, its value so far, and the ranges of
the bytes that must follow. -/
structure PartialChar where
  bytes : List UInt8
  value : Nat
  owed : List (Nat × Nat)
  deriving Repr, DecidableEq

/-- The text of bytes that stand after `passed` others, inside a character perhaps. -/
def decodeFrom (passed : Nat) : Option PartialChar → List UInt8 → Except Utf8Error (List Char)
  | none, [] => .ok []
  | some p, [] => .error ⟨passed - p.bytes.length, p.bytes, .endOfData⟩
  | none, b :: bs =>
    if b.toNat < 128 then do return Char.ofNat b.toNat :: (← decodeFrom (passed + 1) none bs)
    else match leadByte? b.toNat with
      | some (value, owed) => decodeFrom (passed + 1) (some ⟨[b], value, owed⟩) bs
      | none => .error ⟨passed, [b], .startByte⟩
  | some p, b :: bs =>
    match p.owed with
    | [] => .error ⟨passed, [b], .startByte⟩
    | (low, high) :: owed =>
      if low ≤ b.toNat && b.toNat ≤ high then
        let value := p.value * 64 + (b.toNat - 0x80)
        if owed.isEmpty then do return Char.ofNat value :: (← decodeFrom (passed + 1) none bs)
        else decodeFrom (passed + 1) (some ⟨p.bytes ++ [b], value, owed⟩) bs
      else .error ⟨passed - p.bytes.length, p.bytes, .continuationByte⟩

/-- The text of bytes. -/
def decodeUtf8 (bytes : List UInt8) : Except Utf8Error (List Char) :=
  decodeFrom 0 none bytes

/-- The text of a file: without a byte order mark at its start, whole or cut short, and
with line feeds only. -/
def fileText (bytes : List UInt8) : Except Utf8Error String :=
  let decoded := match bytes with
    | 0xEF :: 0xBB :: 0xBF :: rest => decodeUtf8 rest
    | [0xEF, 0xBB] | [0xEF] => .ok []
    | bytes => decodeUtf8 bytes
  decoded.map fun cs => String.ofList (unifyNewlines cs)

end ContainerLint.Text
