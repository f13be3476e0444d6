/-
Splitting a command line into words the way a POSIX shell does: blanks separate
words, quotes and backslashes take characters literally, and operator characters,
where the caller names some, form words of their own. The scanner reads one
character at a time and keeps its place in a `Mode`, so it is a plain recursion
on the text.
-/
namespace ContainerLint.Shell

/-- The text ends where it may not. -/
inductive WordsError where
  /-- Inside quotes. -/
  | noClosingQuotation
  /-- Right after a backslash. -/
  | noEscapedCharacter
  deriving Repr, DecidableEq

/-- The wording of a splitting error. -/
def WordsError.message : WordsError → String
  | .noClosingQuotation => "No closing quotation"
  | .noEscapedCharacter => "No escaped character"

/-- Where the scanner stands. -/
inductive Mode where
  /-- Between words. -/
  | between
  /-- Inside a word. -/
  | word
  /-- Inside a run of operator characters. -/
  | operator
  /-- Inside quotes of the given kind. -/
  | quotes (mark : Char)
  /-- Right after a backslash outside quotes. -/
  | escape
  /-- Right after a backslash inside double quotes. -/
  | escapeInQuotes
  deriving Repr, DecidableEq

/-- The characters that separate words. -/
def isSeparator (c : Char) : Bool :=
  c == ' ' || c == '\t' || c == '\r' || c == '\n'

/-- An apostrophe or a double quote. -/
def isQuote (c : Char) : Bool :=
  c == '\'' || c == '"'

/-- The word collected so far, if there is one: an empty word counts only when it was
written with quotes. -/
def collected (word : List Char) (wasQuoted : Bool) : List (List Char) :=
  if word.isEmpty && !wasQuoted then [] else [word.reverse]

/-- The mode after a character that starts a word, and the characters it adds. -/
def openWord (isOperator : Char → Bool) (c : Char) : Mode × List Char :=
  if c == '\\' then (.escape, [])
  else if isOperator c then (.operator, [c])
  else if isQuote c then (.quotes c, [])
  else (.word, [c])

/-- The words of the rest of a text, given the mode, the characters of the current
word (last first) and whether the word has been quoted. -/
def scanWords (isOperator : Char → Bool) :
    Mode → List Char → Bool → List Char → Except WordsError (List (List Char))
  | .quotes _, _, _, [] => .error .noClosingQuotation
  | .escape, _, _, [] => .error .noEscapedCharacter
  | .escapeInQuotes, _, _, [] => .error .noEscapedCharacter
  | .between, _, _, [] => .ok []
  | .word, acc, q, [] => .ok (collected acc q)
  | .operator, acc, q, [] => .ok (collected acc q)
  | .between, _, _, c :: cs =>
    if isSeparator c then scanWords isOperator .between [] false cs
    else
      let (mode, acc) := openWord isOperator c
      scanWords isOperator mode acc false cs
  | .word, acc, q, c :: cs =>
    if isSeparator c then
      (scanWords isOperator .between [] false cs).map (collected acc q ++ ·)
    else if isQuote c then scanWords isOperator (.quotes c) acc q cs
    else if c == '\\' then scanWords isOperator .escape acc q cs
    else if isOperator c then
      (scanWords isOperator .operator [c] false cs).map (collected acc q ++ ·)
    else scanWords isOperator .word (c :: acc) q cs
  | .operator, acc, q, c :: cs =>
    if isOperator c then scanWords isOperator .operator (c :: acc) q cs
    else if isSeparator c then
      (scanWords isOperator .between [] false cs).map (collected acc q ++ ·)
    else
      let (mode, fresh) := openWord isOperator c
      (scanWords isOperator mode fresh false cs).map (collected acc q ++ ·)
  | .quotes mark, acc, _, c :: cs =>
    if c == mark then scanWords isOperator .word acc true cs
    else if c == '\\' && mark == '"' then scanWords isOperator .escapeInQuotes acc true cs
    else scanWords isOperator (.quotes mark) (c :: acc) true cs
  | .escape, acc, q, c :: cs => scanWords isOperator .word (c :: acc) q cs
  | .escapeInQuotes, acc, q, c :: cs =>
    if c == '\\' || c == '"' then scanWords isOperator (.quotes '"') (c :: acc) q cs
    else scanWords isOperator (.quotes '"') (c :: '\\' :: acc) q cs

/-- The words of a text in which no character is an operator. -/
def splitWords (cs : List Char) : Except WordsError (List (List Char)) :=
  scanWords (fun _ => false) .between [] false cs

end ContainerLint.Shell
