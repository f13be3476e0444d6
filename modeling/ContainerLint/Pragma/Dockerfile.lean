/-
The pragmas of a build file. A comment of its own speaks about the next instruction,
or about the whole file; a comment at the end of an instruction speaks about that
instruction.
-/
import ContainerLint.Dockerfile.Instruction
import ContainerLint.Pragma.State
import ContainerLint.Text.Fold

namespace ContainerLint.Pragmas

open ContainerLint.Text ContainerLint.Dockerfile

/-- The words that a pragma starts with. -/
def toolWords : List String := ["hadolint", "lintcuro"]

/-- What a comment says as a pragma: the text after its first word, if that is the
name of a tool. -/
def pragmaBody? (comment : String) : Option (List Char) :=
  match afterAnyWord toolWords comment.toList with
  | some rest => if atWordEnd rest then some (trimLeft rest) else Option.none
  | Option.none => Option.none

/-- What follows an equals sign, blanks around it left out. -/
def afterEquals (cs : List Char) : Option (List Char) :=
  match trimLeft cs with
  | '=' :: rest => some (trimLeft rest)
  | _ => Option.none

/-- The codes of a pragma that lists codes to leave out. -/
def ignoredCodes? (body : List Char) : Option (List String) :=
  ((afterWord "ignore".toList body).bind afterEquals).map splitCodes

/-- The state with a pragma applied, for the instruction on `target`. -/
def applyBody (p : Pragmas) (target : Option Nat) (body : List Char) : Pragmas :=
  let body := trim body
  let folded := lower (String.ofList body)
  if startsWith folded "global" then
    match ignoredCodes? (trim (body.drop 6)) with
    | some codes => p.ignoreFile codes
    | Option.none => p
  else match ignoredCodes? body with
    | some codes =>
      match target with
      | some line => if codes.isEmpty then p else p.ignoreLine line codes
      | Option.none => p
    | Option.none =>
      if startsWith folded "shell=" then
        let shell := trim (body.drop 6)
        { p with shell := if shell.isEmpty then Option.none else some (String.ofList shell) }
      else if folded == "disable" then { p with disabled := true }
      else p

/-- A character that a list of codes at the end of an instruction may hold. -/
def isCodeListChar (c : Char) : Bool :=
  isBlank c || c == ',' || c == '_' || (foldChar c).isAlphanum

/-- The codes of a pragma at a number sign. -/
def trailingAt? (cs : List Char) : Option (List String) := do
  let rest ← afterAnyWord toolWords (trimLeft cs)
  let word := trimLeft rest
  if word.length == rest.length then Option.none
  else
    let rest ← afterWord "ignore".toList word
    match trimLeft rest with
    | '=' :: list =>
      let codes := list.takeWhile isCodeListChar
      if codes.isEmpty then Option.none else some (splitCodes codes)
    | _ => Option.none

/-- The codes of the first pragma in the text of an instruction. -/
def trailingCodes? : List Char → Option (List String)
  | [] => Option.none
  | c :: cs => (if c == '#' then trailingAt? cs else Option.none).or (trailingCodes? cs)

/-- The state, and the pragmas that wait for an instruction, after one more entry. -/
def readEntry (state : Pragmas × List (List Char)) (entry : Positioned) :
    Pragmas × List (List Char) :=
  let (p, waiting) := state
  match entry.instruction with
  | .comment text =>
    match pragmaBody? text with
    | some body => (p, waiting ++ [body])
    | Option.none => (p, waiting)
  | _ =>
    let p := waiting.foldl (fun p body => p.applyBody (some entry.line) body) p
    match trailingCodes? entry.source.toList with
    | some codes => (p.ignoreLine entry.line codes, [])
    | Option.none => (p, [])

/-- The pragmas of a build file. Those after the last instruction can only speak about
the whole file. -/
def ofDockerfile (entries : List Positioned) : Pragmas :=
  let (p, waiting) := entries.foldl readEntry (Pragmas.none, [])
  waiting.foldl (fun p body => p.applyBody Option.none body) p

end ContainerLint.Pragmas
