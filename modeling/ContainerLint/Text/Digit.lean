/-
Digits of any script, as Unicode 14 classes them, and the reading of a run of
them as a number. Two classes are kept apart. A *decimal* digit has a place value
and can stand in a number; a *digit* may also be a superscript or a circled one,
which looks like a digit but has no place value. The difference shows: a text of
digits that are not all decimal passes for a number and then fails to be read.
Numbers in decimal have a bound on their digits, read or written.
-/
import ContainerLint.Text.Blank
import ContainerLint.Text.CharRange
import ContainerLint.Text.Cut
import ContainerLint.Text.Quoted

namespace ContainerLint.Text

/-- The decimal digits, as closed ranges; each range is whole decades from 0 to 9. -/
def decimalRanges : List (Nat × Nat) := [
  (48, 57), (1632, 1641), (1776, 1785), (1984, 1993), (2406, 2415), (2534, 2543), (2662, 2671),
  (2790, 2799), (2918, 2927), (3046, 3055), (3174, 3183), (3302, 3311), (3430, 3439),
  (3558, 3567), (3664, 3673), (3792, 3801), (3872, 3881), (4160, 4169), (4240, 4249),
  (6112, 6121), (6160, 6169), (6470, 6479), (6608, 6617), (6784, 6793), (6800, 6809),
  (6992, 7001), (7088, 7097), (7232, 7241), (7248, 7257), (42528, 42537), (43216, 43225),
  (43264, 43273), (43472, 43481), (43504, 43513), (43600, 43609), (44016, 44025), (65296, 65305),
  (66720, 66729), (68912, 68921), (69734, 69743), (69872, 69881), (69942, 69951), (70096, 70105),
  (70384, 70393), (70736, 70745), (70864, 70873), (71248, 71257), (71360, 71369), (71472, 71481),
  (71904, 71913), (72016, 72025), (72784, 72793), (73040, 73049), (73120, 73129), (92768, 92777),
  (92864, 92873), (93008, 93017), (120782, 120831), (123200, 123209), (123632, 123641),
  (125264, 125273), (130032, 130041)]

/-- The digits that are not decimal: superscripts, subscripts, circled ones. -/
def otherDigitRanges : List (Nat × Nat) := [
  (178, 179), (185, 185), (4969, 4977), (6618, 6618), (8304, 8304), (8308, 8313), (8320, 8329),
  (9312, 9320), (9332, 9340), (9352, 9360), (9450, 9450), (9461, 9469), (9471, 9471),
  (10102, 10110), (10112, 10120), (10122, 10130), (68160, 68163), (69216, 69224), (69714, 69722),
  (127232, 127242)]

/-- The place value of a decimal digit. Every range of `decimalRanges` starts at a
zero, so the distance from its start, modulo ten, is the value. -/
def decimalValue? (c : Char) : Option Nat :=
  (decimalRanges.find? fun r => r.1 ≤ c.toNat && c.toNat ≤ r.2).map fun r => (c.toNat - r.1) % 10

/-- A decimal digit of any script. -/
def isDecimal (c : Char) : Bool :=
  (decimalValue? c).isSome

/-- A digit of any script, decimal or not. -/
def isDigit (c : Char) : Bool :=
  isDecimal c || inRanges otherDigitRanges c

/-- A blank that may stand around a number; the four control characters that separate
records may not. -/
def isPadding (c : Char) : Bool :=
  isBlank c && !(28 ≤ c.toNat && c.toNat ≤ 31)

/-! ## Numerals -/

/-- Why a text is not a number, or a number has no text. -/
inductive NumeralError where
  /-- The text is no number in the base. -/
  | malformed (base : Nat) (text : String)
  /-- More digits than a number may have. -/
  | tooLong (digits : Nat)
  /-- A number of more digits than may be written. -/
  | unwritable
  deriving Repr, DecidableEq

/-- The greatest number of digits a decimal number may have. -/
def maxDigits : Nat := 4300

/-- The wording of a numeral error; of a long text, only the front is given. -/
def NumeralError.message : NumeralError → String
  | .malformed base text =>
    "invalid literal for int() with base " ++ toString base ++ ": " ++
      String.ofList ((quoted text).toList.take 200)
  | .tooLong digits =>
    s!"Exceeds the limit ({maxDigits} digits) for integer string conversion: value has {digits} " ++
      "digits; use sys.set_int_max_str_digits() to increase the limit"
  | .unwritable =>
    s!"Exceeds the limit ({maxDigits} digits) for integer string conversion; " ++
      "use sys.set_int_max_str_digits() to increase the limit"

/-- A text without the sign at its front, and whether the sign is a minus. -/
def cutSign : List Char → Bool × List Char
  | '-' :: cs => (true, cs)
  | '+' :: cs => (false, cs)
  | cs => (false, cs)

/-- A text without the mark of a base at its front, if it has one. -/
def cutBase (base : Nat) : List Char → List Char
  | '0' :: c :: cs =>
    let mark := c.toLower
    if (base == 16 && mark == 'x') || (base == 8 && mark == 'o') || (base == 2 && mark == 'b') then
      cs
    else '0' :: c :: cs
  | cs => cs

/-- The value of a digit in a base up to sixteen: a decimal digit of any script, or a
letter of the basic alphabet. -/
def digitValue? (base : Nat) (c : Char) : Option Nat :=
  let value := match decimalValue? c with
    | some d => some d
    | none =>
      if 'a' ≤ c && c ≤ 'f' then some (c.toNat - 87)
      else if 'A' ≤ c && c ≤ 'F' then some (c.toNat - 55)
      else none
  value.filter (· < base)

/-- The number that digits denote in a base, most significant first. -/
def ofDigits (base : Nat) (digits : List Nat) : Nat :=
  digits.foldl (fun n d => n * base + d) 0

/-- The number that a text denotes in a base: blanks around it, a sign and the mark of
the base are allowed. Decimals that are too long are refused before anything that
follows their digits is looked at. -/
def readNumeral (base : Nat) (text : String) : Except NumeralError Int :=
  let (negative, signless) := cutSign (dropEnds isPadding text.toList)
  let body := cutBase base signless
  let digits := (body.map (digitValue? base)).takeWhile Option.isSome
  if base == 10 && maxDigits < digits.length then .error (.tooLong digits.length)
  else if digits.isEmpty || digits.length < body.length then .error (.malformed base text)
  else
    let n : Int := ofDigits base (digits.filterMap id)
    .ok (if negative then -n else n)

/-- The number that a non-empty run of decimal digits denotes. -/
def readDecimal (cs : List Char) : Except NumeralError Nat :=
  let run := (cs.takeWhile isDecimal).length
  if maxDigits < run then .error (.tooLong run)
  else match cs.mapM decimalValue? with
    | none => .error (.malformed 10 (String.ofList cs))
    | some ds =>
      if ds.isEmpty then .error (.malformed 10 "") else .ok (ofDigits 10 ds)

/-- The decimal text of a number, unless it is too long. -/
def writeInt (n : Int) : Except NumeralError String :=
  if maxDigits < (Nat.toDigits 10 n.natAbs).length then .error .unwritable else .ok (toString n)

end ContainerLint.Text
