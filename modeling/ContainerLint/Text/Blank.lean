/-
Blanks and line breaks, as Unicode 14 classes them. The two classes differ: every
line break is a blank, but a tab or a space breaks no line, and the unit separator
is a blank that ends no line.
-/
import ContainerLint.Text.CharRange

namespace ContainerLint.Text

/-- The blank characters, as closed ranges. -/
def blankRanges : List (Nat × Nat) := [
  (9, 13), (28, 32), (133, 133), (160, 160), (5760, 5760), (8192, 8202), (8232, 8233),
  (8239, 8239), (8287, 8287), (12288, 12288)]

/-- White space of any script. -/
def isBlank (c : Char) : Bool :=
  inRanges blankRanges c

/-- The characters that end a line of running text, as closed ranges. -/
def lineBreakRanges : List (Nat × Nat) := [(10, 13), (28, 30), (133, 133), (8232, 8233)]

/-- A character that ends a line of running text. -/
def isLineBreak (c : Char) : Bool :=
  inRanges lineBreakRanges c

end ContainerLint.Text
