/-
The values that scalars write, by their tags. A form that a tag does not take is
refused with the wording of the reading that failed. A reader that keeps the form of
scalars looks at more of it, and so refuses some forms for other reasons.
-/
import ContainerLint.Text.Case
import ContainerLint.Text.Digit
import ContainerLint.Value.Basic
import ContainerLint.Yaml.Tag

namespace ContainerLint.Yaml

open ContainerLint.Text

/-- How the scalars of a document are read. -/
structure Manner where
  edition : Edition
  /-- The form in which scalars are written is kept. -/
  keepsForm : Bool
  deriving Repr, DecidableEq

/-! ## Whole numbers -/

/-- The whole number that a text writes in a base. -/
def readInBase (base : Nat) (cs : List Char) : Except Error Int :=
  (readNumeral base (String.ofList cs)).mapError fun e => .fault (.numeral e)

/-- The number after the mark of its base. Where the form is kept, something must follow
the mark. -/
def readMarked (m : Manner) (base : Nat) (cs : List Char) : Except Error Int :=
  if m.keepsForm && m.edition == .current && cs.isEmpty then .error (.fault .emptyNumber)
  else readInBase base cs

/-- The number whose digits to the base sixty are given, most significant first. -/
def ofSixties (digits : List Int) : Int :=
  digits.foldl (fun n d => 60 * n + d) 0

/-- The whole number that a scalar without sign and underscores writes. -/
def readUnsigned (m : Manner) (body : List Char) : Except Error Int :=
  match body with
  | ['0'] => .ok 0
  | '0' :: 'b' :: rest => readMarked m 2 rest
  | '0' :: 'x' :: rest => readMarked m 16 rest
  | '0' :: 'o' :: rest => readMarked m 8 rest
  | _ =>
    if body.isEmpty && (m.keepsForm || m.edition == .legacy) then .error (.fault .emptyNumber)
    else if m.edition == .legacy && body.head? == some '0' then readInBase 8 body
    else if m.edition == .legacy && body.contains ':' then do
      return ofSixties (← (splitAtChar ':' body).mapM (readInBase 10))
    else readInBase 10 body

/-- The whole number that a scalar writes. -/
def readInt (m : Manner) (text : String) : Except Error Int := do
  let written := text.toList.filter (· != '_')
  if written.isEmpty then throw (.fault .emptyNumber)
  let (negative, body) := cutSign written
  let n ← readUnsigned m body
  return if negative then -n else n

/-! ## Numbers with fractions -/

/-- The digits of a decimal fraction and the power of ten they stand for, if the text
is one. -/
def readDecimalParts (cs : List Char) : Option (Nat × Int) :=
  let whole := cs.takeWhile Char.isDigit
  let rest := cs.dropWhile Char.isDigit
  let (fraction, rest) := match rest with
    | '.' :: rest => (rest.takeWhile Char.isDigit, rest.dropWhile Char.isDigit)
    | rest => ([], rest)
  let digits := (whole ++ fraction).foldl (fun n c => 10 * n + (c.toNat - 48)) 0
  if whole.isEmpty && fraction.isEmpty then none
  else match rest with
    | [] => some (digits, -(fraction.length : Int))
    | e :: rest =>
      let (negative, ds) := cutSign rest
      if e == 'e' && isAll Char.isDigit ds then
        let power : Int := (ds.foldl (fun n c => 10 * n + (c.toNat - 48)) 0 : Nat)
        some (digits, (if negative then -power else power) - fraction.length)
      else none

/-- A decimal digit of any script as one of the basic alphabet. -/
def basicDigit (c : Char) : Char :=
  match decimalValue? c with
  | some d => Char.ofNat (48 + d)
  | none => c

/-- A number in decimal, or the word for one that is not finite. -/
def readDouble (cs : List Char) : Except Error Double :=
  let (negative, body) := cutSign ((dropEnds isPadding cs).map basicDigit)
  if ["inf", "infinity"].contains (String.ofList body) then .ok (.infinite negative)
  else if body == "nan".toList then .ok .nan
  else match readDecimalParts body with
    | some (digits, power) => .ok (Double.ofDecimal negative digits power)
    | none => .error (.fault (.fraction (String.ofList cs)))

/-- The number whose parts to the base sixty are given, least significant first: each is
taken times its power of sixty and added, with rounding each time. -/
def addSixties (total : Double) (power : Nat) : List Double → Double
  | [] => total
  | part :: parts => addSixties (total.add (part.mul (Double.ofNat power))) (power * 60) parts

/-- The text has one exponent to a mark of the given case, with something in it. -/
def checkExponent (mark : Char) (cs : List Char) : Except Error Unit :=
  match splitAtChar mark cs with
  | [_, exponent] => if exponent.isEmpty then .error (.fault .emptyNumber) else .ok ()
  | parts => .error (.fault (.exponents (parts.length - 1)))

/-- The exponent of a number can be told apart, where that is asked for. -/
def checkExponents (m : Manner) (text : String) (body : List Char) : Except Error Unit :=
  if !body.contains 'e' then .ok ()
  else if m.keepsForm then
    let written := text.toList
    if countChar 'e' written == 1 then checkExponent 'e' written else checkExponent 'E' written
  else if m.edition == .legacy && 1 < countChar 'e' body then
    .error (.fault (.exponents (countChar 'e' body)))
  else .ok ()

/-- The number that a scalar writes. -/
def readFloat (m : Manner) (text : String) : Except Error Double := do
  let written := (lower text).toList.filter (· != '_')
  if written.isEmpty then throw (.fault .emptyNumber)
  let (negative, body) := cutSign written
  let sign := fun (x : Double) => if negative then x.negate else x
  if body == ".inf".toList then return .infinite negative
  else if body == ".nan".toList then return .nan
  else if m.edition == .legacy && body.contains ':' then
    let parts ← (splitAtChar ':' body).mapM readDouble
    return sign (addSixties (.finite false 0 Double.leastExponent) 1 parts.reverse)
  else
    checkExponents m text body
    return sign (← readDouble body)

/-! ## Dates -/

/-- A fraction of a second in microseconds, rounded at the seventh digit. -/
def microseconds (fraction : List Char) : Nat :=
  let six := (fraction ++ List.replicate 6 '0').take 6
  let n := six.foldl (fun n c => 10 * n + (c.toNat - 48)) 0
  if (fraction.drop 6).head?.any fun c => '4' < c then n + 1 else n

/-- The moment of a date and a time of day. A fraction that rounds to a second makes the
next one. -/
def WrittenTime.toMoment (t : WrittenTime) (year month day : Nat) :
    Except CalendarError Moment := do
  let zone ← t.zone.mapM fun z => Zone.make z.offset z.name
  let date ← Date.make year month day
  let fraction := microseconds t.fraction
  if 999999 < fraction then
    (← Moment.make date t.hour t.minute t.second 0 zone).nextSecond
  else Moment.make date t.hour t.minute t.second fraction zone

/-- The value of a timestamp. Where the form is kept, a time that is joined to its date or
has an offset keeps its own. -/
def Timestamp.toValue (m : Manner) (t : Timestamp) : Except CalendarError Value :=
  match t.time with
  | none => return .date (← Date.make t.year t.month t.day)
  | some time => do
    let moment ← time.toMoment t.year t.month t.day
    let marked := time.joined || time.zone.any (·.signed)
    let form := if m.keepsForm && marked then MomentForm.stamp time.joined else .loose
    return .moment { moment with form := form }

/-! ## Scalars -/

/-- The truth value of a word, in any case. -/
def readBool (text : String) : Except Error Bool :=
  let word := lower text
  if ["true", "yes", "on", "y"].contains word then .ok true
  else if ["false", "no", "off", "n"].contains word then .ok false
  else .error (.fault (.truthWord word))

/-- The value of a scalar whose tag is one of scalars; nothing for other tags. -/
def readScalar (m : Manner) (tag : Tag) (text : String) (start : Mark) :
    Option (Except Error Value) :=
  match tag with
  | .null => some (.ok .null)
  | .bool => some ((readBool text).map .bool)
  | .int => some ((readInt m text).map .int)
  | .float => some ((readFloat m text).map .float)
  | .binary => some (match decodeBase64 text.toList with
    | .ok bytes => .ok (.bytes bytes)
    | .error e => .error (.marked none (.badBase64 e) start))
  | .text => some (.ok (.text text))
  | .timestamp =>
    some (match readTimestamp true (dropLineFeed text.toList) with
      | none => .error (.marked none (.badTimestamp text) start)
      | some t => (t.toValue m).mapError fun e => .fault (.calendar e))
  | _ => none

end ContainerLint.Yaml
