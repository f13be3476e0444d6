/-
Texts to the base 64: four digits for three bytes. Characters that are no digits are
passed over, and the text ends where a group of four is filled up with equals signs.
-/
import ContainerLint.Text.Quoted

namespace ContainerLint.Text

/-- Why a text to the base 64 is none. -/
inductive Base64Error where
  /-- Characters of another alphabet, from one place to another. -/
  | foreign (first : Char) (start stop : Nat)
  /-- One digit more than whole groups of four. -/
  | lone (count : Nat)
  /-- The last group is not filled up. -/
  | padding
  deriving Repr, DecidableEq

/-- The wording of an error. -/
def Base64Error.message : Base64Error → String
  | .foreign first start stop =>
    let place := if start == stop then
        "character '" ++ String.ofList (escapeHex first) ++ "' in position " ++ toString start
      else "characters in position " ++ toString start ++ "-" ++ toString stop
    "failed to convert base64 data into ascii: 'ascii' codec can't encode " ++ place ++
      ": ordinal not in range(128)"
  | .lone count =>
    "failed to decode base64 data: Invalid base64-encoded string: number of data characters (" ++
      toString count ++ ") cannot be 1 more than a multiple of 4"
  | .padding => "failed to decode base64 data: Incorrect padding"

/-- The value of a digit to the base 64. -/
def sixtyFourValue? (c : Char) : Option Nat :=
  if 'A' ≤ c && c ≤ 'Z' then some (c.toNat - 65)
  else if 'a' ≤ c && c ≤ 'z' then some (c.toNat - 71)
  else if c.isDigit then some (c.toNat + 4)
  else if c == '+' then some 62
  else if c == '/' then some 63
  else none

/-- The digits of the group that is not full, and the equals signs after its last one. -/
structure Base64Group where
  digits : List Nat := []
  signs : Nat := 0
  deriving Repr, DecidableEq

/-- The bytes of a group of two, three or four digits. -/
def Base64Group.bytes : List Nat → List UInt8
  | [a, b] => [UInt8.ofNat ((a * 64 + b) / 16)]
  | [a, b, c] =>
    let n := (a * 64 + b) * 64 + c
    [UInt8.ofNat (n / 1024), UInt8.ofNat (n / 4)]
  | [a, b, c, d] =>
    let n := ((a * 64 + b) * 64 + c) * 64 + d
    [UInt8.ofNat (n / 65536), UInt8.ofNat (n / 256), UInt8.ofNat n]
  | _ => []

/-- The bytes of the digits from a group on, `full` groups of four having been passed. -/
def decodeGroups (full : Nat) (g : Base64Group) : List Char → Except Base64Error (List UInt8)
  | [] =>
    match g.digits with
    | [] => .ok []
    | [_] => .error (.lone (4 * full + 1))
    | _ => .error .padding
  | c :: cs =>
    if c == '=' then
      let g := if 2 ≤ g.digits.length then { g with signs := g.signs + 1 } else g
      if 2 ≤ g.digits.length && 4 ≤ g.digits.length + g.signs then .ok (Base64Group.bytes g.digits)
      else decodeGroups full g cs
    else match sixtyFourValue? c with
      | none => decodeGroups full g cs
      | some d =>
        let digits := g.digits ++ [d]
        if digits.length == 4 then do
          return Base64Group.bytes digits ++ (← decodeGroups (full + 1) {} cs)
        else decodeGroups full ⟨digits, 0⟩ cs

/-- The bytes that a text to the base 64 writes. -/
def decodeBase64 (cs : List Char) : Except Base64Error (List UInt8) :=
  let isForeign := fun (c : Char) => 128 ≤ c.toNat
  let start := (cs.takeWhile (!isForeign ·)).length
  match cs.drop start with
  | [] => decodeGroups 0 {} cs
  | c :: rest => .error (.foreign c start (start + (rest.takeWhile isForeign).length))

end ContainerLint.Text
