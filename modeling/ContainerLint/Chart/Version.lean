/-
Version numbers: two or three numbers between dots, with anything after a dash or
a plus sign.
-/
import ContainerLint.Text.Cut
import ContainerLint.Text.Digit

namespace ContainerLint.Chart

open ContainerLint.Text

/-- A non-empty run of digits. -/
def isNumber (cs : List Char) : Bool :=
  !cs.isEmpty && cs.all isDigit

/-- The part of a version before its pre-release or build part. -/
def versionCore (cs : List Char) : List Char :=
  cs.takeWhile fun c => c != '-' && c != '+'

/-- The text is a version number. -/
def isVersion (version : String) : Bool :=
  let parts := splitAtChar '.' (versionCore version.toList)
  2 ≤ parts.length && parts.length ≤ 3 && parts.all isNumber

end ContainerLint.Chart
