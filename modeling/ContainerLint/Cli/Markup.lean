/-
Text with tags of style in square brackets, as lines of a report are written. A tag
starts with a small letter or one of three signs; a backslash before it makes it plain
text. What is seen is the text without its tags, with emoji in the place of their names.
A tag closes the last open one of its style, in whatever words that is written. A tag
with an at sign has a handler, whose arguments are read when it is closed.
-/
import ContainerLint.Cli.Emoji
import ContainerLint.Cli.Literal
import ContainerLint.Cli.Style

namespace ContainerLint.Cli

open ContainerLint.Text

/-- What is wrong with tags. -/
inductive MarkupError where
  /-- A tag closes one that is not open. -/
  | unmatched (tag : String) (position : Nat)
  /-- A tag closes the last one, but none is open. -/
  | nothingOpen (position : Nat)
  /-- The arguments of a handler, a part of what is written for it, are no literal. -/
  | badArguments (part whole : String) (e : LiteralError)
  /-- A style has a colour mixed of something that is no number. -/
  | badColour (e : NumeralError)
  deriving Repr, DecidableEq

/-- The wording of an error. -/
def MarkupError.message : MarkupError → String
  | .unmatched tag position =>
    "closing tag '[" ++ tag ++ "]' at position " ++ toString position ++
      " doesn't match any open tag"
  | .nothingOpen position =>
    "closing tag '[/]' at position " ++ toString position ++ " has nothing to close"
  | .badArguments _ whole .notLiteral =>
    "error parsing " ++ quoted whole ++ "; " ++ LiteralError.notLiteral.message
  | .badArguments part whole e =>
    "error parsing " ++ quoted part ++ " in " ++ quoted whole ++ "; " ++ e.message
  | .badColour e => e.message

/-! ## Tags -/

/-- A tag may start with the character. -/
def startsTag (c : Char) : Bool :=
  c.isLower || c == '#' || c == '/' || c == '@'

/-- The inside of a tag, after its opening bracket. -/
def tagInside? (cs : List Char) : Option (List Char) :=
  match cs with
  | c :: _ =>
    let inside := cs.takeWhile fun c => c != ']' && c != '['
    if startsTag c && (cs.drop inside.length).head? == some ']' then some inside else none
  | [] => none

/-- The backslashes before a tag, and its inside, if a tag follows. -/
def tagAt? (cs : List Char) : Option (Nat × List Char) :=
  let slashes := (cs.takeWhile (· == '\\')).length
  match cs.drop slashes with
  | '[' :: rest => (tagInside? rest).map fun inside => (slashes, inside)
  | _ => none

/-- The text with backslashes before what would be read as tags, `skip` characters having
been dealt with. -/
def escapeFrom : Nat → List Char → List Char
  | _, [] => []
  | skip + 1, _ :: cs => escapeFrom skip cs
  | 0, c :: cs =>
    match tagAt? (c :: cs) with
    | some (slashes, inside) =>
      List.replicate (2 * slashes + 1) '\\' ++ '[' :: inside ++ [']'] ++
        escapeFrom (slashes + inside.length + 1) cs
    | none => c :: escapeFrom 0 cs

/-- The text as it must be written to be seen as it is. -/
def escape (text : String) : String :=
  let cs := escapeFrom 0 text.toList
  let slashes := (cs.reverse.takeWhile (· == '\\')).length
  String.ofList (if slashes == 1 then cs ++ ['\\'] else cs)

/-! ## Reading -/

/-- A piece of text with tags. -/
inductive MarkupPiece where
  | plain (text : List Char)
  | tag (inside : List Char) (position : Nat)
  deriving Repr, DecidableEq

/-- The pieces at a tag that has backslashes before it. -/
def piecesAt (position slashes : Nat) (inside : List Char) : List MarkupPiece :=
  let kept := MarkupPiece.plain (List.replicate (slashes / 2) '\\')
  if slashes % 2 == 1 then [kept, .plain ('[' :: inside ++ [']'])]
  else [kept, .tag inside (position + slashes)]

/-- The pieces of a text, `run` being the plain text so far, back to front, and `skip`
characters having been dealt with. -/
def piecesFrom (position : Nat) (run : List Char) : Nat → List Char → List MarkupPiece
  | _, [] => [.plain run.reverse]
  | skip + 1, _ :: cs => piecesFrom (position + 1) run skip cs
  | 0, c :: cs =>
    match tagAt? (c :: cs) with
    | some (slashes, inside) =>
      .plain run.reverse :: piecesAt position slashes inside ++
        piecesFrom (position + 1) [] (slashes + inside.length + 1) cs
    | none => piecesFrom (position + 1) (c :: run) 0 cs

/-- The text without the backslashes that stand before brackets. -/
def dropEscapes : List Char → List Char
  | '\\' :: '[' :: cs => '[' :: dropEscapes cs
  | c :: cs => c :: dropEscapes cs
  | [] => []

/-- An open tag. -/
structure OpenTag where
  name : String
  /-- What stands after its equals sign, if it has one. -/
  parameters : Option String
  deriving Repr, DecidableEq

/-- The name in a tag in its normal form, and what stands after its equals sign. -/
def readTag (inside : List Char) : Except MarkupError OpenTag := do
  let (name, parameters) := match cutAt '=' inside with
    | some (name, parameters) => (name, some (String.ofList parameters))
    | none => (inside, none)
  let name ← (Style.normalForm (String.ofList name)).mapError .badColour
  return ⟨name, parameters⟩

/-- The style that an open tag says. -/
def OpenTag.style (t : OpenTag) : String :=
  match t.parameters with
  | some parameters => t.name ++ " " ++ parameters
  | none => t.name

/-- The arguments in what is written for a handler: what stands in parentheses after its
name, or all of it if it has another form. -/
def argumentsOf (parameters : List Char) : List Char :=
  let arguments := parameters.dropWhile fun c => isWordChar c || c == '.'
  if arguments.isEmpty then "()".toList
  else if arguments.head? == some '(' && 1 < arguments.length &&
      arguments.getLast? == some ')' && !arguments.contains '\n' then arguments
  else parameters

/-- The arguments of a handler are a literal. -/
def OpenTag.checkHandler (t : OpenTag) : Except MarkupError Unit :=
  match t.parameters with
  | none => .ok ()
  | some whole =>
    if whole.isEmpty || !startsWith t.name "@" then .ok ()
    else
      let part := argumentsOf (trim whole.toList)
      (checkLiteral part).mapError (.badArguments (String.ofList part) whole)

/-- The last open tag of a name, and the others. -/
def closeTag? (name : String) : List OpenTag → Option (OpenTag × List OpenTag)
  | [] => none
  | tag :: rest =>
    if tag.name == name then some (tag, rest)
    else (closeTag? name rest).map fun (found, others) => (found, tag :: others)

/-- The tag that a closing one closes, and the tags that stay open. Only the name after
the slash counts. -/
def closedBy (opened : List OpenTag) (inside : List Char) (position : Nat) :
    Except MarkupError (OpenTag × List OpenTag) := do
  let name := match cutAt '=' inside with
    | some (name, _) => trim (name.drop 1)
    | none => trim (inside.drop 1)
  if name.isEmpty then
    match opened with
    | tag :: rest => return (tag, rest)
    | [] => throw (.nothingOpen position)
  else
    let name ← (Style.normalForm (String.ofList name)).mapError .badColour
    match closeTag? name opened with
    | some found => return found
    | none => throw (.unmatched (String.ofList inside) position)

/-- What is seen of pieces, and the tags among them, the open tags being given, last
first. -/
def seen (opened : List OpenTag) :
    List MarkupPiece → Except MarkupError (List Char × List OpenTag)
  | [] => .ok ([], opened)
  | .plain text :: rest => do
    let (after, tags) ← seen opened rest
    return (withEmoji (dropEscapes text) ++ after, tags)
  | .tag inside position :: rest =>
    if inside.head? == some '/' then do
      let (tag, others) ← closedBy opened inside position
      tag.checkHandler
      let (after, tags) ← seen others rest
      return (after, if startsWith tag.name "@" then tags else tag :: tags)
    else do
      let tag ← readTag inside
      seen (tag :: opened) rest

/-- Characters that are not shown. -/
def isUnshown (c : Char) : Bool :=
  ['\x07', '\x08', '\x0b', '\x0c', '\r'].contains c

/-- What is seen of a text with tags. The styles of its tags must have colours. -/
def shown (text : String) : Except MarkupError String := do
  let cs := text.toList
  let plain ← if cs.contains '[' then do
      let (plain, tags) ← seen [] (piecesFrom 0 [] 0 cs)
      let _ ← (tags.mapM fun t => Style.ofText? t.style).mapError .badColour
      pure plain
    else pure (withEmoji cs)
  return String.ofList (plain.filter (!isUnshown ·))

end ContainerLint.Cli
