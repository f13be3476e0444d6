/-
Words compared without regard to case, in the way of a pattern: character by
character, so that the letters outside of the basic alphabet that fold into it match
too.
-/
import ContainerLint.Text.Alphanumeric
import ContainerLint.Text.Cut

namespace ContainerLint.Text

/-- The lower-case basic letter that a character matches, itself if there is none.
The two Turkish letters match `i`, the long s matches `s`, and the Kelvin sign `k`. -/
def foldChar (c : Char) : Char :=
  let n := c.toNat
  if n < 128 then c.toLower
  else if n == 304 || n == 305 then 'i'
  else if n == 383 then 's'
  else if n == 8490 then 'k'
  else c

/-- What follows a word of lower-case basic letters at the front of a text. -/
def afterWord : List Char → List Char → Option (List Char)
  | [], cs => some cs
  | w :: ws, c :: cs => if foldChar c == w then afterWord ws cs else none
  | _ :: _, [] => none

/-- What follows the first of some words that stands at the front of a text. -/
def afterAnyWord (words : List String) (cs : List Char) : Option (List Char) :=
  words.findSome? fun word => afterWord word.toList cs

/-- A word ends before this text. -/
def atWordEnd : List Char → Bool
  | [] => true
  | c :: _ => !isWordChar c

end ContainerLint.Text
