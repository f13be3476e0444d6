/-
Paths as lists of names. Empty names and dots mean nothing and are left out; two dots
are kept, as what they mean depends on the files.
-/
import ContainerLint.Text.Cut

namespace ContainerLint

open ContainerLint.Text

/-- A path: names, and the text before them that says where they start from. Without
such a text they start from the working directory. -/
structure Path where
  anchor : String
  parts : List String
  deriving Repr, DecidableEq

namespace Path

/-- The slashes that a path starts with; three or more are as good as one. -/
def leadingSlashes : List Char → String
  | '/' :: '/' :: '/' :: _ => "/"
  | '/' :: '/' :: _ => "//"
  | '/' :: _ => "/"
  | _ => ""

/-- The path that a text writes. -/
def ofText (text : String) : Path where
  anchor := leadingSlashes text.toList
  parts := ((splitAtChar '/' text.toList).filter fun cs => !cs.isEmpty && cs != ['.']).map
    String.ofList

/-- The path does not depend on the working directory. -/
def isAbsolute (p : Path) : Bool :=
  !p.anchor.isEmpty

/-- The path as text; the path of no names is a dot. -/
def render (p : Path) : String :=
  if p.anchor.isEmpty && p.parts.isEmpty then "." else p.anchor ++ joinWith "/" p.parts

/-- The path of names inside the directory of a path. -/
def append (p : Path) (parts : List String) : Path :=
  { p with parts := p.parts ++ parts }

/-- The path is that of a directory around another. -/
def isAbove (p q : Path) : Bool :=
  p.anchor == q.anchor && p.parts.length < q.parts.length && p.parts.isPrefixOf q.parts

/-- The order of lists of names: name by name. -/
def notAfter : List String → List String → Bool
  | [], _ => true
  | _ :: _, [] => false
  | a :: as, b :: bs => if a = b then notAfter as bs else decide (a < b)

end Path

end ContainerLint
