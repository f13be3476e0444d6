/-
The tags of nodes, which say what a node means, and the tags that plain scalars
have by their form. The two editions of the language differ in the forms of truth
values and numbers.
-/
import ContainerLint.Text.Digit
import ContainerLint.Yaml.Plain

namespace ContainerLint.Yaml

open ContainerLint.Text

/-- What a node means. -/
inductive Tag where
  | null
  | bool
  | int
  | float
  | binary
  | timestamp
  | text
  | sequence
  | mapping
  | set
  | orderedMapping
  | pairs
  | merge
  | value
  /-- A tag without a meaning here. -/
  | other (name : String)
  deriving Repr, DecidableEq

namespace Tag

/-- What the full names of the tags of the language itself start with. -/
def coreSpace : String := "tag:yaml.org,2002:"

/-- The tags of the language itself, by their short names. -/
def core : List (String × Tag) := [
  ("null", .null), ("bool", .bool), ("int", .int), ("float", .float), ("binary", .binary),
  ("timestamp", .timestamp), ("str", .text), ("seq", .sequence), ("map", .mapping),
  ("set", .set), ("omap", .orderedMapping), ("pairs", .pairs), ("merge", .merge),
  ("value", .value)]

/-- The tag with a full name. -/
def ofName (name : String) : Tag :=
  match core.find? fun entry => coreSpace ++ entry.1 == name with
  | some entry => entry.2
  | none => .other name

/-- The full name of a tag. -/
def name : Tag → String
  | .other name => name
  | tag => match core.find? fun entry => entry.2 == tag with
    | some entry => coreSpace ++ entry.1
    | none => ""

end Tag

/-! ## Forms of plain scalars -/

/-- A decimal digit or an underscore. -/
def isGrouped (c : Char) : Bool :=
  c.isDigit || c == '_'

/-- A non-empty text of characters of a class. -/
def isAll (p : Char → Bool) (cs : List Char) : Bool :=
  !cs.isEmpty && cs.all p

/-- An exponent; `signed` asks for its sign to be written. -/
def isExponent (signed : Bool) : List Char → Bool
  | e :: cs =>
    (e == 'e' || e == 'E') &&
      match cs with
      | '-' :: ds => isAll Char.isDigit ds
      | '+' :: ds => isAll Char.isDigit ds
      | ds => !signed && isAll Char.isDigit ds
  | [] => false

/-- One or more groups of a colon and a number below sixty, and then the given rest. -/
def isSexagesimal (rest : List Char → Bool) : List Char → Bool
  | ':' :: a :: b :: cs =>
    if '0' ≤ a && a ≤ '5' && b.isDigit then rest cs || isSexagesimal rest cs
    else a.isDigit && (rest (b :: cs) || isSexagesimal rest (b :: cs))
  | [':', a] => a.isDigit && rest []
  | _ => false

/-- The form of a number with a fraction or an exponent. -/
def isFloatForm (edition : Edition) (cs : List Char) : Bool :=
  let body := (cutSign cs).2
  let signed := body.length != cs.length
  let startsDigit := body.head?.any Char.isDigit
  let afterWhole := body.dropWhile isGrouped
  let whole := startsDigit && (isExponent false afterWhole ||
    match afterWhole with
    | '.' :: rest =>
      let afterFraction := rest.dropWhile isGrouped
      afterFraction.isEmpty || isExponent false afterFraction
    | _ => false)
  let fraction := match body with
    | '.' :: rest =>
      let digits := rest.takeWhile isGrouped
      let after := rest.dropWhile isGrouped
      !(signed && edition == .legacy) && !digits.isEmpty && (after.isEmpty || isExponent true after)
    | _ => false
  let sixty := edition == .legacy && startsDigit &&
    isSexagesimal (fun
      | '.' :: rest => rest.all isGrouped
      | _ => false) afterWhole
  whole || fraction || sixty ||
    [".inf", ".Inf", ".INF"].contains (String.ofList body) ||
    [".nan", ".NaN", ".NAN"].contains (String.ofList cs)

/-- The form of a whole number. -/
def isIntForm (edition : Edition) (cs : List Char) : Bool :=
  let body := (cutSign cs).2
  let isOctal := fun c => ('0' ≤ c && c ≤ '7') || c == '_'
  let based := match body with
    | '0' :: 'b' :: rest => isAll (fun c => c == '0' || c == '1' || c == '_') rest
    | '0' :: 'x' :: rest => isAll (fun c => isHex c || c == '_') rest
    | '0' :: 'o' :: rest => edition == .current && isAll isOctal rest
    | _ => false
  let decimal := match edition with
    | .current => isAll isGrouped body
    | .legacy => isAll isOctal body || match body with
      | c :: rest => '1' ≤ c && c ≤ '9' && (rest.all isGrouped ||
          isSexagesimal List.isEmpty (rest.dropWhile isGrouped))
      | [] => false
  based || decimal

/-- The zone of a time as it is written: by a letter, or by a sign and an offset in
minutes. -/
structure WrittenZone where
  offset : Int
  name : String
  signed : Bool
  deriving Repr, DecidableEq

/-- A time of day as it is written. -/
structure WrittenTime where
  hour : Nat
  minute : Nat
  second : Nat
  fraction : List Char
  zone : Option WrittenZone
  /-- A letter joins it to the date. -/
  joined : Bool
  deriving Repr, DecidableEq

/-- The parts of a date, with a time of day if it is written. -/
structure Timestamp where
  year : Nat
  month : Nat
  day : Nat
  time : Option WrittenTime
  deriving Repr, DecidableEq

/-- The number at the front of a text, of at least `least` and at most `most` digits. -/
def cutNumber (least most : Nat) (cs : List Char) : Option (Nat × List Char) :=
  let digits := (cs.take most).takeWhile Char.isDigit
  if least ≤ digits.length then
    some (digits.foldl (fun n c => 10 * n + (c.toNat - 48)) 0, cs.drop digits.length)
  else none

/-- A text without the given character at its front. -/
def cutChar (c : Char) : List Char → Option (List Char)
  | d :: cs => if d == c then some cs else none
  | [] => none

/-- The zone of a time at the end of a timestamp, if the rest of it is one or empty. -/
def readZone (cs : List Char) : Option (Option WrittenZone) :=
  let written := cs.dropWhile fun c => c == ' ' || c == '\t'
  match written with
  | [] => if cs.isEmpty then some none else none
  | ['Z'] => some (some ⟨0, "Z", false⟩)
  | sign :: rest =>
    if sign == '+' || sign == '-' then do
      let (hours, rest) ← cutNumber 1 2 rest
      let minutes ← match rest with
        | [] => some 0
        | _ => do
          let (minutes, rest) ← cutNumber 2 2 (← cutChar ':' rest)
          if rest.isEmpty then some minutes else none
      let total : Int := hours * 60 + minutes
      return some ⟨if sign == '-' then -total else total, String.ofList written, true⟩
    else none

/-- The timestamp that a text writes. A date alone needs two digits for month and day
to have the form, unless `lenient`. -/
def readTimestamp (lenient : Bool) (cs : List Char) : Option Timestamp := do
  let (year, rest) ← cutNumber 4 4 cs
  let afterYear ← cutChar '-' rest
  let (month, rest) ← cutNumber 1 2 afterYear
  let afterMonth ← cutChar '-' rest
  let (day, rest) ← cutNumber 1 2 afterMonth
  if rest.isEmpty then
    if lenient || cs.length == 10 then return ⟨year, month, day, none⟩ else none
  else
    let (joined, rest) ← match rest with
      | c :: rest =>
        if c == 'T' || c == 't' then some (true, rest)
        else if c == ' ' || c == '\t' then
          some (false, rest.dropWhile fun c => c == ' ' || c == '\t')
        else none
      | [] => none
    let (hour, rest) ← cutNumber 1 2 rest
    let (minute, rest) ← cutNumber 2 2 (← cutChar ':' rest)
    let (second, rest) ← cutNumber 2 2 (← cutChar ':' rest)
    let (fraction, rest) := match rest with
      | '.' :: rest => (rest.takeWhile Char.isDigit, rest.dropWhile Char.isDigit)
      | rest => ([], rest)
    let zone ← readZone rest
    return ⟨year, month, day, some ⟨hour, minute, second, fraction, zone, joined⟩⟩

/-- The words that are truth values. -/
def isBoolWord (edition : Edition) (word : String) : Bool :=
  ["true", "True", "TRUE", "false", "False", "FALSE"].contains word ||
    (edition == .legacy && ["y", "Y", "yes", "Yes", "YES", "n", "N", "no", "No", "NO",
      "on", "On", "ON", "off", "Off", "OFF"].contains word)

/-- A text without the line feed at its end, unless that is all there is. -/
def dropFinalFeed (text : String) : String :=
  let cs := dropLineFeed text.toList
  if cs.isEmpty then text else String.ofList cs

/-- The tag that a plain scalar has by its form. One line feed at its end is no part of
the form. -/
def Tag.ofPlain (edition : Edition) (written : String) : Tag :=
  let text := dropFinalFeed written
  let cs := text.toList
  if isBoolWord edition text then .bool
  else if ["", "~", "null", "Null", "NULL"].contains text then .null
  else if text == "<<" then .merge
  else if text == "=" then .value
  else if isFloatForm edition cs then .float
  else if isIntForm edition cs && cs.head? != some '_' then .int
  else if (readTimestamp false cs).isSome then .timestamp
  else .text

end ContainerLint.Yaml
