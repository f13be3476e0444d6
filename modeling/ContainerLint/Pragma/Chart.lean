/-
The pragmas of a file of a chart, in comments that start a line and in the comments
of templates. They speak about the line after them, or about the whole file; the
comment of a template that stands beside other text speaks about its own line too.
-/
import ContainerLint.Pragma.State
import ContainerLint.Template.Document
import ContainerLint.Text.Fold

namespace ContainerLint.Pragmas

open ContainerLint.Text ContainerLint.Template

/-- What follows the name of a pragma on its line. Only one line may be left. -/
def pragmaRest? (cs : List Char) : Option (List Char) :=
  let rest := trimLeft cs
  if atWordEnd cs && !rest.contains '\n' then some rest else Option.none

/-- What a comment says as a pragma: whether it speaks about the whole file, and the
text after its name. -/
def chartPragma? (comment : String) : Option (Bool × List Char) := do
  let rest ← afterWord "helmlint-".toList (trim comment.toList)
  let rest ← afterAnyWord ["ignore", "disable"] rest
  match (afterWord "-file".toList rest).bind pragmaRest? with
  | some body => some (true, body)
  | Option.none => (pragmaRest? rest).map fun body => (false, body)

/-- The state with a comment applied that ends on a line; `beside` says that other text
stands on the line. -/
def applyComment (p : Pragmas) (comment : String) (line : Nat) (beside : Bool) : Pragmas :=
  match chartPragma? comment with
  | Option.none => p
  | some (wholeFile, body) =>
    let body := trim body
    let codes := (splitCodes body).filter (startsWith · "HL")
    if wholeFile then
      if body.isEmpty then { p with disabled := true } else p.ignoreFile codes
    else
      let targets := if body.isEmpty then [wildcard] else codes
      let p := p.ignoreLine (line + 1) targets
      if beside then p.ignoreLine line targets else p

/-- What follows the end of a template's comment, if it ends here. -/
def commentEnd? (cs : List Char) : Option (List Char) :=
  match cs with
  | '*' :: '/' :: rest =>
    match trimLeft rest with
    | '-' :: '}' :: '}' :: after => some after
    | '}' :: '}' :: after => some after
    | _ => Option.none
  | _ => Option.none

/-- What follows the first end of a template's comment. -/
def afterComment? : List Char → Option (List Char)
  | [] => Option.none
  | c :: cs => (commentEnd? (c :: cs)).or (afterComment? cs)

/-- What follows a template's comment at the front of a text. -/
def wholeComment? (cs : List Char) : Option (List Char) :=
  match cs with
  | '{' :: '{' :: rest =>
    let rest := match rest with
      | '-' :: rest => rest
      | rest => rest
    match trimLeft rest with
    | '/' :: '*' :: body => afterComment? body
    | _ => Option.none
  | _ => Option.none

/-- A line without the comments of templates; `skip` characters of it belong to one. -/
def withoutComments : Nat → List Char → List Char
  | _, [] => []
  | skip + 1, _ :: cs => withoutComments skip cs
  | 0, c :: cs =>
    match wholeComment? (c :: cs) with
    | some after => withoutComments (cs.length - after.length) cs
    | Option.none => c :: withoutComments 0 cs

/-- A comment of a template on one line stands beside other text. -/
def standsBeside (lines : List (List Char)) (content : String) (line : Nat) : Bool :=
  !content.toList.contains '\n' && 0 < line &&
    match lines[line - 1]? with
    | some text => !allBlank (withoutComments 0 text)
    | Option.none => false

/-- The state with the pragmas of comments that start a line. -/
def readLines (p : Pragmas) (line : Nat) : List (List Char) → Pragmas
  | [] => p
  | text :: rest =>
    let p := match trim text with
      | '#' :: comment => p.applyComment (String.ofList comment) line false
      | _ => p
    readLines p (line + 1) rest

/-- The state with the pragmas of the comments of a template. -/
def readTokens (p : Pragmas) (lines : List (List Char)) (tokens : List Token) : Pragmas :=
  tokens.foldl (fun p token => match token with
    | .comment content line .. =>
      let last := line + countChar '\n' content.toList
      p.applyComment content last (standsBeside lines content line)
    | _ => p) p

/-- The pragmas of a file of a chart that has the given tokens. -/
def ofTokens (text : String) (tokens : List Token) : Pragmas :=
  let lines := runningLines text.toList
  readTokens (readLines Pragmas.none 1 lines) lines tokens

/-- The pragmas of a file of a chart. -/
def ofChartText (text : String) : Pragmas :=
  ofTokens text (if contains text "\x7b\x7b" then (Document.ofText text "").tokens else [])

end ContainerLint.Pragmas
