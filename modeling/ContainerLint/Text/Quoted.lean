/-
A text in quotes on one line: how a message shows a value that may hold blanks,
quotes or characters that do not print. Apostrophes stand around the text unless
it holds an apostrophe and no double quote.
-/
import ContainerLint.Text.Printable

namespace ContainerLint.Text

/-- One hexadecimal digit, in lower case. -/
def hexDigit (n : Nat) : Char :=
  if n < 10 then Char.ofNat (48 + n) else Char.ofNat (87 + n)

/-- The last `width` hexadecimal digits of a number. -/
def hexPadded (width n : Nat) : List Char :=
  match width with
  | 0 => []
  | width + 1 => hexPadded width (n / 16) ++ [hexDigit (n % 16)]

/-- A character that does not print, as a backslash escape of the shortest width. -/
def escapeHex (c : Char) : List Char :=
  if c.toNat < 256 then '\\' :: 'x' :: hexPadded 2 c.toNat
  else if c.toNat < 65536 then '\\' :: 'u' :: hexPadded 4 c.toNat
  else '\\' :: 'U' :: hexPadded 8 c.toNat

/-- One character inside quotes of the given kind. -/
def quoteChar (quote c : Char) : List Char :=
  if c == quote || c == '\\' then ['\\', c]
  else if c == '\n' then ['\\', 'n']
  else if c == '\r' then ['\\', 'r']
  else if c == '\t' then ['\\', 't']
  else if isPrintable c then [c]
  else escapeHex c

/-- The kind of quotes a text takes. -/
def quoteMark (cs : List Char) : Char :=
  if cs.contains '\'' && !cs.contains '"' then '"' else '\''

/-- The text in quotes. -/
def quoted (s : String) : String :=
  let mark := quoteMark s.toList
  String.ofList (mark :: s.toList.flatMap (quoteChar mark) ++ [mark])

end ContainerLint.Text
