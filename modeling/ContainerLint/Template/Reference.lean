/-
What an action refers to: the variable paths, the known functions and the quoted
name in its text. This looks at the text only and does not read expressions.
-/
import ContainerLint.Text.Alphanumeric
import ContainerLint.Text.Cut

namespace ContainerLint.Template

open ContainerLint.Text

/-- The functions that an action is searched for. -/
def knownFunctions : List String := [
  "include", "tpl", "lookup", "required", "default", "empty", "coalesce", "toYaml", "toJson",
  "fromYaml", "fromJson", "indent", "nindent", "trim", "trimAll", "trimPrefix", "trimSuffix",
  "quote", "squote", "upper", "lower", "title", "untitle", "substr", "replace", "trunc", "list",
  "dict", "get", "set", "unset", "hasKey", "keys", "values", "merge", "mergeOverwrite", "append",
  "prepend", "concat", "first", "last", "printf", "print", "println", "fail", "kindOf", "typeOf",
  "deepEqual", "b64enc", "b64dec", "sha256sum", "randAlphaNum", "randAlpha", "now", "date",
  "dateModify", "toDate", "env", "expandenv", "dateInZone", "genCA"]

/-- The known functions whose names occur in an action. -/
def functionsIn (content : String) : List String :=
  knownFunctions.filter (contains content)

/-- A character of a variable path. -/
def isPathChar (c : Char) : Bool :=
  isAlphanumeric c || c == '_' || c == '.'

/-- A finished path, given last character first; a lone dot is none. -/
def finishedPath (path : List Char) : List (List Char) :=
  if 1 < path.length then [path.reverse] else []

/-- The paths of a text from left to right, `path` being the one that is open, last
character first, or empty outside a path. -/
def pathsFrom : List Char → List Char → List (List Char)
  | path, [] => finishedPath path
  | [], c :: cs => if c == '.' then pathsFrom ['.'] cs else pathsFrom [] cs
  | d :: path, c :: cs =>
    if isPathChar c then pathsFrom (c :: d :: path) cs
    else finishedPath (d :: path) ++ pathsFrom [] cs

/-- The variable paths of an action, such as `.Values.image.tag`, each from its first
dot, without repetitions. -/
def variablesIn (content : String) : List String :=
  ((pathsFrom [] content.toList).map String.ofList).eraseDups

/-- The text between the first two double quotes of an action. -/
def firstQuoted? (content : String) : Option String :=
  match cutAt '"' content.toList with
  | some (_, back) => (cutAt '"' back).map fun (name, _) => String.ofList name
  | none => none

/-- The quoted name of an action; an empty one counts as none. -/
def quotedName? (content : String) : Option String :=
  (firstQuoted? content).filter (!·.isEmpty)

end ContainerLint.Template
