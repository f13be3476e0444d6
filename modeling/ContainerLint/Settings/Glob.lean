/-
Patterns for file names: a star stands for any text, a question mark for any
character, and brackets for a character of a class.
-/
import ContainerLint.Text.Cut

namespace ContainerLint

open ContainerLint.Text

namespace Glob

/-- A part of a pattern. -/
inductive Part where
  | star
  | any
  | char (c : Char)
  /-- A character within one of some closed ranges, or within none of them. -/
  | among (negated : Bool) (ranges : List (Char × Char))
  deriving Repr, DecidableEq

/-! ## Classes of characters -/

/-- The inside of brackets and what follows them. A closing bracket right after the
opening one is part of the inside. -/
def cutBrackets (cs : List Char) : Option (List Char × List Char) :=
  let (front, body) := match cs with
    | '!' :: rest => (['!'], rest)
    | rest => ([], rest)
  let (front, body) := match body with
    | ']' :: rest => (front ++ [']'], rest)
    | rest => (front, rest)
  (cutAt ']' body).map fun (inside, rest) => (front ++ inside, rest)

/-- The text before and after the first hyphen that has at least `n` characters before
it. -/
def cutHyphen (n : Nat) (cs : List Char) : Option (List Char × List Char) :=
  (cutAt '-' (cs.drop n)).map fun (front, back) => (cs.take n ++ front, back)

/-- The pieces of a class between the hyphens that make ranges. -/
def pieces : Nat → Nat → List Char → List (List Char)
  | 0, _, cs => [cs]
  | fuel + 1, n, cs =>
    match cutHyphen n cs with
    | some (front, []) => [front ++ ['-']]
    | some (front, back) => front :: pieces fuel 2 back
    | none => [cs]

/-- The pieces without the ranges that run backwards. -/
def joinBackward : List (List Char) → List (List Char)
  | [] => []
  | piece :: rest =>
    match joinBackward rest with
    | [] => [piece]
    | next :: others =>
      if next.headD ' ' < piece.getLastD ' ' then (piece.dropLast ++ next.drop 1) :: others
      else piece :: next :: others

/-- The ranges of a class given by its pieces. -/
def rangesOf : List (List Char) → List (Char × Char)
  | [] => []
  | [piece] => piece.map fun c => (c, c)
  | piece :: next :: rest =>
    piece.map (fun c => (c, c)) ++ (piece.getLastD ' ', next.headD ' ') :: rangesOf (next :: rest)

/-- The part that the inside of brackets makes. -/
def classOf (inside : List Char) : Part :=
  let split := if inside.contains '-' then
      joinBackward (pieces inside.length (if inside.head? == some '!' then 2 else 1) inside)
    else [inside]
  match split with
  | ('!' :: piece) :: rest =>
    if piece.isEmpty && rest.isEmpty then .any
    else .among true (rangesOf (piece :: rest))
  | split => .among false (rangesOf split)

/-! ## Patterns -/

/-- The parts of a pattern; `skip` characters of it belong to brackets. -/
def partsFrom : Nat → List Char → List Part
  | _, [] => []
  | skip + 1, _ :: cs => partsFrom skip cs
  | 0, c :: cs =>
    if c == '*' then .star :: partsFrom 0 cs
    else if c == '?' then .any :: partsFrom 0 cs
    else if c == '[' then
      match cutBrackets cs with
      | some (inside, _) => classOf inside :: partsFrom (inside.length + 1) cs
      | none => .char c :: partsFrom 0 cs
    else .char c :: partsFrom 0 cs

/-- A part that stands for one character takes this one. -/
def Part.takes : Part → Char → Bool
  | .star, _ => false
  | .any, _ => true
  | .char d, c => c == d
  | .among negated ranges, c => negated != ranges.any fun r => r.1 ≤ c && c ≤ r.2

/-- The parts stand for the whole text. -/
def matchesParts : List Part → List Char → Bool
  | [], cs => cs.isEmpty
  | .star :: parts, [] => matchesParts parts []
  | .star :: parts, c :: cs => matchesParts parts (c :: cs) || matchesParts (.star :: parts) cs
  | part :: parts, c :: cs => part.takes c && matchesParts parts cs
  | _ :: _, [] => false
termination_by parts cs => parts.length + cs.length

/-- A pattern stands for a name. -/
def isMatch (pattern name : String) : Bool :=
  matchesParts (partsFrom 0 pattern.toList) name.toList

/-- A text has a character that is special in patterns. -/
def isPattern (text : String) : Bool :=
  text.toList.any fun c => c == '*' || c == '?' || c == '['

end Glob

end ContainerLint
