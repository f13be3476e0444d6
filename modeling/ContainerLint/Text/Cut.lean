/-
Cutting text: trimming, splitting at characters and at blanks, finding and
replacing pieces. Everything is stated on lists of characters, where the
recursion is on the data; the few forms that records need are given on `String`
at the end.
-/
import ContainerLint.Text.Blank

namespace ContainerLint.Text

/-! ## Trimming -/

/-- The text without the characters of a class at its front. -/
def dropFront (p : Char → Bool) (cs : List Char) : List Char :=
  cs.dropWhile p

/-- The text without the characters of a class at its back. -/
def dropBack (p : Char → Bool) (cs : List Char) : List Char :=
  (cs.reverse.dropWhile p).reverse

/-- The text without the characters of a class at either end. -/
def dropEnds (p : Char → Bool) (cs : List Char) : List Char :=
  dropBack p (dropFront p cs)

/-- The text without blanks at its front. -/
def trimLeft (cs : List Char) : List Char :=
  dropFront isBlank cs

/-- The text without blanks at its back. -/
def trimRight (cs : List Char) : List Char :=
  dropBack isBlank cs

/-- The text without blanks at either end. -/
def trim (cs : List Char) : List Char :=
  dropEnds isBlank cs

/-- The text without a line feed at its end. -/
def dropLineFeed (cs : List Char) : List Char :=
  if cs.getLast? == some '\n' then cs.dropLast else cs

/-- The text is a character of one class and then characters of another. -/
def isName (first rest : Char → Bool) : List Char → Bool
  | c :: cs => first c && cs.all rest
  | [] => false

/-- The text holds blanks only. -/
def allBlank (cs : List Char) : Bool :=
  cs.all isBlank

/-! ## Splitting -/

/-- The pieces between the entries of a class, empty ones included: a list with `n`
such entries has `n + 1` pieces. -/
def splitBy {α : Type} (p : α → Bool) : List α → List (List α)
  | [] => [[]]
  | c :: cs =>
    if p c then [] :: splitBy p cs
    else match splitBy p cs with
      | [] => [[c]]
      | piece :: pieces => (c :: piece) :: pieces

/-- The pieces between the occurrences of one character. -/
def splitAtChar (sep : Char) (cs : List Char) : List (List Char) :=
  splitBy (· == sep) cs

/-- The words of a text: its maximal runs without a blank. -/
def words (cs : List Char) : List (List Char) :=
  (splitBy isBlank cs).filter (!·.isEmpty)

/-- The first word and the text after the blanks that follow it; nothing for a text
of blanks only. -/
def cutWord (cs : List Char) : Option (List Char × List Char) :=
  match trimLeft cs with
  | [] => none
  | c :: rest =>
    some ((c :: rest).takeWhile (!isBlank ·), trimLeft ((c :: rest).dropWhile (!isBlank ·)))

/-- The text before and after the first occurrence of a character. -/
def cutAt (sep : Char) : List Char → Option (List Char × List Char)
  | [] => none
  | c :: cs =>
    if c == sep then some ([], cs)
    else (cutAt sep cs).map fun (front, back) => (c :: front, back)

/-- The text before and after the last occurrence of a character. -/
def cutAtLast (sep : Char) (cs : List Char) : Option (List Char × List Char) :=
  (cutAt sep cs.reverse).map fun (back, front) => (front.reverse, back.reverse)

/-- The lines of running text. A carriage return and a line feed end one line
together, and a break at the very end starts no further line. -/
def runningLines : List Char → List (List Char)
  | [] => []
  | '\r' :: '\n' :: cs => [] :: runningLines cs
  | c :: cs =>
    if isLineBreak c then [] :: runningLines cs
    else match runningLines cs with
      | [] => [[c]]
      | line :: lines => (c :: line) :: lines

/-! ## Joining, finding and replacing -/

/-- The pieces with a separator between neighbours. -/
def join (sep : List Char) : List (List Char) → List Char
  | [] => []
  | [piece] => piece
  | piece :: pieces => piece ++ sep ++ join sep pieces

/-- The text before and after the first occurrence of a piece. -/
def cutAtPiece (piece : List Char) : List Char → Option (List Char × List Char)
  | [] => if piece.isEmpty then some ([], []) else none
  | c :: cs =>
    if piece.isPrefixOf (c :: cs) then some ([], (c :: cs).drop piece.length)
    else (cutAtPiece piece cs).map fun (front, back) => (c :: front, back)

/-- The piece occurs in the text. -/
def occursIn (piece text : List Char) : Bool :=
  (cutAtPiece piece text).isSome

/-- `replaceFrom` with the next `skip` characters already replaced. -/
def replaceFrom (old new : List Char) : Nat → List Char → List Char
  | _, [] => []
  | skip + 1, _ :: cs => replaceFrom old new skip cs
  | 0, c :: cs =>
    if old.isPrefixOf (c :: cs) then new ++ replaceFrom old new (old.length - 1) cs
    else c :: replaceFrom old new 0 cs

/-- Every occurrence of a non-empty piece, from left to right, replaced by another. -/
def replaceAll (old new cs : List Char) : List Char :=
  replaceFrom old new 0 cs

/-- How often a character occurs. -/
def countChar (c : Char) (cs : List Char) : Nat :=
  cs.count c

/-- Line feeds only: a carriage return, with or without a line feed after it, becomes
one line feed. -/
def unifyNewlines : List Char → List Char
  | [] => []
  | '\r' :: '\n' :: cs => '\n' :: unifyNewlines cs
  | '\r' :: cs => '\n' :: unifyNewlines cs
  | c :: cs => c :: unifyNewlines cs

/-! ## The forms on `String` -/

/-- The text without blanks at either end. -/
def trimmed (s : String) : String :=
  String.ofList (trim s.toList)

/-- The words of a text. -/
def wordsOf (s : String) : List String :=
  (words s.toList).map String.ofList

/-- The text starts with the given one. -/
def startsWith (s front : String) : Bool :=
  front.toList.isPrefixOf s.toList

/-- The text ends with the given one. -/
def endsWith (s back : String) : Bool :=
  back.toList.isSuffixOf s.toList

/-- The text contains the given one. -/
def contains (s piece : String) : Bool :=
  occursIn piece.toList s.toList

/-- The text with a separator between neighbours. -/
def joinWith (sep : String) (pieces : List String) : String :=
  String.ofList (join sep.toList (pieces.map String.toList))

end ContainerLint.Text
