/-
Arguments written as literals: numbers, texts, and collections of them in brackets.
Here it is only told whether a text is such a literal, and if not, what is wrong with
it. The text is cut into symbols first; what is wrong with a symbol goes before what is
wrong with their order.
-/
import ContainerLint.Text.Alphanumeric
import ContainerLint.Text.Cut
import ContainerLint.Text.Quoted

namespace ContainerLint.Cli

open ContainerLint.Text

/-- What is wrong with a literal. -/
inductive LiteralError where
  | unclosed (bracket : Char)
  | unmatched (bracket : Char)
  | mismatched (closing opening : Char)
  | unterminated (triple : Bool)
  /-- A number with something wrong in it, by the kind of number. -/
  | badNumber (kind : String)
  | leadingZeros
  | badCharacter (c : Char)
  | misplaced
  | missingComma
  | missingValue
  /-- An expression that is no literal. -/
  | notLiteral
  deriving Repr, DecidableEq

/-- The wording of an error. -/
def LiteralError.message : LiteralError → String
  | .unclosed bracket => quoted (String.ofList [bracket]) ++ " was never closed"
  | .unmatched bracket => "unmatched " ++ quoted (String.ofList [bracket])
  | .mismatched closing opening =>
    "closing parenthesis " ++ quoted (String.ofList [closing]) ++
      " does not match opening parenthesis " ++ quoted (String.ofList [opening])
  | .unterminated false => "unterminated string literal (detected at line 1)"
  | .unterminated true => "unterminated triple-quoted string literal (detected at line 1)"
  | .badNumber kind => "invalid " ++ kind ++ " literal"
  | .leadingZeros => "leading zeros in decimal integer literals are not permitted; " ++
      "use an 0o prefix for octal integers"
  | .badCharacter c =>
    "invalid character '" ++ String.ofList [c] ++ "' (U+" ++
      String.ofList ((hexPadded 4 c.toNat).map Char.toUpper) ++ ")"
  | .misplaced => "invalid syntax"
  | .missingComma => "invalid syntax. Perhaps you forgot a comma?"
  | .missingValue => "expression expected after dictionary key and ':'"
  | .notLiteral => "malformed node or string on line 1"

/-! ## Symbols -/

/-- A symbol of a literal. -/
inductive Symbol where
  | number
  | text
  | name (word : String)
  | opening (bracket : Char)
  | closing (bracket : Char)
  | comma
  | colon
  /-- A sign that joins two operands, or stands before one if `leads`. -/
  | operator (leads : Bool)
  /-- A sign that has no place in an expression. -/
  | stray
  deriving Repr, DecidableEq

/-- A run of digits with underscores between them. -/
def cutDigits (isDigit : Char → Bool) (cs : List Char) : List Char × List Char :=
  cs.span fun c => isDigit c || c == '_'

/-- The text after a number, given its kind; a letter may not follow. -/
def endNumber (kind : String) (cs : List Char) : Except LiteralError (List Char) :=
  if cs.head?.any isWordChar then .error (.badNumber kind) else .ok cs

/-- The text after a number in another base than ten. -/
def passMarked (kind : String) (isDigit : Char → Bool) (cs : List Char) :
    Except LiteralError (List Char) :=
  let (digits, rest) := cutDigits isDigit cs
  if digits.isEmpty || digits.getLast? == some '_' then .error (.badNumber kind)
  else endNumber kind rest

/-- The text after an exponent, if there is one. -/
def passExponent (cs : List Char) : Option (List Char) :=
  match cs with
  | e :: rest =>
    if e != 'e' && e != 'E' then none
    else
      let rest := match rest with
        | '+' :: ds => ds
        | '-' :: ds => ds
        | ds => ds
      let (digits, after) := cutDigits Char.isDigit rest
      if digits.isEmpty then none else some after
  | [] => none

/-- The text after a decimal number. -/
def passDecimal (cs : List Char) : Except LiteralError (List Char) :=
  let (whole, rest) := cutDigits Char.isDigit cs
  let (isWhole, rest) := match rest with
    | '.' :: rest => (false, (cutDigits Char.isDigit rest).2)
    | rest => (true, rest)
  let (isWhole, rest) := match passExponent rest with
    | some rest => (false, rest)
    | none => (isWhole, rest)
  match rest with
  | 'j' :: rest => endNumber "imaginary" rest
  | 'J' :: rest => endNumber "imaginary" rest
  | rest =>
    if whole.getLast? == some '_' then .error (.badNumber "decimal")
    else if isWhole && whole.head? == some '0' && whole.any fun c => '1' ≤ c && c ≤ '9' then
      .error .leadingZeros
    else endNumber "decimal" rest

/-- The text after a number. -/
def passNumber : List Char → Except LiteralError (List Char)
  | '0' :: c :: cs =>
    if c == 'x' || c == 'X' then
      passMarked "hexadecimal" (fun c => c.isDigit || ('a' ≤ c.toLower && c.toLower ≤ 'f')) cs
    else if c == 'o' || c == 'O' then passMarked "octal" (fun c => '0' ≤ c && c ≤ '7') cs
    else if c == 'b' || c == 'B' then passMarked "binary" (fun c => c == '0' || c == '1') cs
    else passDecimal ('0' :: c :: cs)
  | cs => passDecimal cs

/-- How many characters a text takes up to and with its closing quote, after the opening
one. -/
def shortLength? (quote : Char) : List Char → Option Nat
  | [] => none
  | '\\' :: _ :: cs => (shortLength? quote cs).map (· + 2)
  | c :: cs =>
    if c == quote then some 1
    else if c == '\n' then none
    else (shortLength? quote cs).map (· + 1)

/-- How many characters a text takes up to and with its three closing quotes. -/
def tripleLength? (quote : Char) : List Char → Option Nat
  | [] => none
  | '\\' :: _ :: cs => (tripleLength? quote cs).map (· + 2)
  | c :: cs =>
    if c == quote && [quote, quote].isPrefixOf cs then some 3
    else (tripleLength? quote cs).map (· + 1)

/-- The text after a text in quotes, from its opening quote on. -/
def passText (quote : Char) (cs : List Char) : Except LiteralError (List Char) :=
  if [quote, quote, quote].isPrefixOf cs then
    match tripleLength? quote (cs.drop 3) with
    | some n => .ok (cs.drop (3 + n))
    | none => .error (.unterminated true)
  else
    match shortLength? quote (cs.drop 1) with
    | some n => .ok (cs.drop (1 + n))
    | none => .error (.unterminated false)

/-- The letters that may stand before a text in quotes. -/
def textMarks : List String := ["r", "u", "b", "br", "rb"]

/-- A quote. -/
def isQuote (c : Char) : Bool :=
  c == '\'' || c == '"'

/-- The signs of operators, longer ones first. -/
def operators : List String := [
  "**", "//", "<<", ">>", "<=", ">=", "==", "!=", "->", ":=",
  "+", "-", "*", "/", "%", "@", "&", "|", "^", "~", "<", ">", ".", "="]

/-- The next symbol of a text, and the text after it. -/
def symbolAt (c : Char) (cs : List Char) : Except LiteralError (Symbol × List Char) := do
  let text := c :: cs
  if c.isDigit || (c == '.' && cs.head?.any Char.isDigit) then return (.number, ← passNumber text)
  else if isQuote c then return (.text, ← passText c text)
  else if isWordChar c then
    let (word, rest) := text.span isWordChar
    match rest.head?.filter isQuote with
    | some quote =>
      if textMarks.contains (String.ofList (word.map Char.toLower)) then
        return (.text, ← passText quote rest)
      else return (.name (String.ofList word), rest)
    | none => return (.name (String.ofList word), rest)
  else if ['(', '{'].contains c then return (.opening c, cs)
  else if [')', '}'].contains c then return (.closing c, cs)
  else if c == ',' then return (.comma, cs)
  else if c.toNat > 127 then throw (.badCharacter c)
  else match operators.find? fun o => o.toList.isPrefixOf text with
    | some o => return (.operator (["+", "-", "~"].contains o), text.drop o.length)
    | none => return (if c == ':' then .colon else .stray, cs)

/-- The bracket that closes another. -/
def closingOf (bracket : Char) : Char :=
  if bracket == '(' then ')' else '}'

/-- The open brackets after a symbol, the innermost first. -/
def brackets (opened : List Char) : Symbol → Except LiteralError (List Char)
  | .opening b => .ok (b :: opened)
  | .closing b =>
    match opened with
    | [] => .error (.unmatched b)
    | o :: outer => if closingOf o == b then .ok outer else .error (.mismatched b o)
  | _ => .ok opened

/-- The symbols of a text. Fuel is its length. -/
def symbolsFrom (opened : List Char) : Nat → List Char → Except LiteralError (List Symbol)
  | 0, _ => .ok []
  | _, [] => .ok []
  | fuel + 1, c :: cs =>
    if c == '#' then .ok []
    else if isBlank c then symbolsFrom opened fuel cs
    else do
      let (s, rest) ← symbolAt c cs
      let opened ← brackets opened s
      return s :: (← symbolsFrom opened fuel rest)

/-! ## Order -/

/-- What may stand next. -/
inductive Turn where
  /-- An operand, or the end of what is being read. -/
  | item
  /-- An operand. -/
  | operand
  /-- An operand, after the colon of a pair. -/
  | value
  /-- What follows an operand, which is a text or not. -/
  | after (isText : Bool)
  deriving Repr, DecidableEq

/-- How far reading has come: the open brackets, innermost first, what may stand next, and
whether all so far is literal. -/
structure Progress where
  opened : List Char := []
  turn : Turn := .operand
  isLiteral : Bool := true
  deriving Repr, DecidableEq

/-- Two operands next to each other. -/
def adjacent (p : Progress) : LiteralError :=
  if p.opened.isEmpty then .misplaced else .missingComma

/-- The progress after an operand. -/
def afterOperand (p : Progress) (isText isLiteral : Bool) : Except LiteralError Progress :=
  match p.turn with
  | .after wasText =>
    if isText && wasText then .ok p
    else if isText && !p.isLiteral then .error .misplaced
    else .error (adjacent p)
  | _ => .ok { p with turn := .after isText, isLiteral := p.isLiteral && isLiteral }

/-- The progress after a symbol. -/
def Progress.step (p : Progress) : Symbol → Except LiteralError Progress
  | .number => afterOperand p false true
  | .text => afterOperand p true true
  | .name word => afterOperand p false (["True", "False", "None"].contains word)
  | .opening b =>
    match p.turn with
    | .after _ =>
      if b == '(' then .ok ⟨b :: p.opened, .item, false⟩ else .error (adjacent p)
    | _ => .ok { p with opened := b :: p.opened, turn := .item }
  | .closing _ =>
    match p.turn with
    | .value => .error .missingValue
    | .operand => .error .misplaced
    | _ => .ok { p with opened := p.opened.drop 1, turn := .after false }
  | .comma =>
    match p.turn with
    | .after _ => .ok { p with turn := .item }
    | .value => .error .missingValue
    | _ => .error .misplaced
  | .colon =>
    match p.turn, p.opened with
    | .after _, '{' :: _ => .ok { p with turn := .value }
    | _, _ => .error .misplaced
  | .operator leads =>
    match p.turn with
    | .after _ => .ok { p with turn := .operand, isLiteral := false }
    | _ => if leads then .ok { p with turn := .operand } else .error .misplaced
  | .stray => .error .misplaced

/-- The progress at the end of a literal. -/
def Progress.finish (p : Progress) : Except LiteralError Unit :=
  match p.opened, p.turn with
  | bracket :: _, _ => .error (.unclosed bracket)
  | [], .operand => .error .misplaced
  | [], .value => .error .misplaced
  | [], _ => if p.isLiteral then .ok () else .error .notLiteral

/-- The text is a literal. -/
def checkLiteral (text : List Char) : Except LiteralError Unit := do
  let symbols ← symbolsFrom [] text.length text
  (← symbols.foldlM Progress.step {}).finish

end ContainerLint.Cli
