/-
The values of a chart, with the line that each key is written on. A key is known by
its path: the keys around it and itself, with dots between them.
-/
import ContainerLint.Chart.Error
import ContainerLint.Text.Case

namespace ContainerLint.Chart

open ContainerLint.Text ContainerLint.Yaml

/-- The values of a chart and the lines of their paths. -/
structure Values where
  value : Value
  lines : List (String × Nat)
  deriving Repr

namespace Values

/-! ## Paths -/

/-- The path of a key inside the value of a path. -/
def pathOf (outer : String) (key : Value) : Except NumeralError String :=
  if outer.isEmpty then key.plain else return outer ++ "." ++ (← key.plain)

mutual

/-- The paths of an outline and their lines, outer ones first. -/
def pathsIn (outer : String) : Outline → Except NumeralError (List (String × Nat))
  | .leaf => .ok []
  | .mapping entries => pathsOf outer entries

/-- The paths of entries and of what they hold. -/
def pathsOf (outer : String) :
    List (Value × Nat × Outline) → Except NumeralError (List (String × Nat))
  | [] => .ok []
  | (key, line, inner) :: rest => do
    let path ← pathOf outer key
    let below ← pathsIn path inner
    return (path, line) :: below ++ (← pathsOf outer rest)

end

/-- The lines with one put under a path, in the place of the path if it is there. -/
def putLine (path : String) (line : Nat) : List (String × Nat) → List (String × Nat)
  | [] => [(path, line)]
  | (p, n) :: rest =>
    if p == path then (p, line) :: rest else (p, n) :: putLine path line rest

mutual

/-- The value comes again among the values of its mappings, so that they have no end. -/
def isEndless : Value → Bool
  | .again _ shape => shape != .list
  | .map entries => isEndlessIn entries
  | _ => false

/-- One of the values comes again. -/
def isEndlessIn : List (Value × Value) → Bool
  | [] => false
  | (_, v) :: entries => isEndless v || isEndlessIn entries

end

/-- The values in the text of a file. An empty file has none, and the paths of values
without an end cannot be gone through. -/
def ofText (text : String) : Except LoadError Values :=
  match Yaml.loadOutlined text with
  | .error e => .error (LoadError.ofYaml text e)
  | .ok (.null, _) => .ok ⟨.map [], []⟩
  | .ok (.map entries, outline) =>
    if isEndless (.map entries) then .error (.badKind "maximum recursion depth exceeded")
    else match pathsIn "" outline with
    | .error e => .error (.numeral e)
    | .ok paths => .ok ⟨.map entries, paths.foldl (fun lines (p, n) => putLine p n lines) []⟩
  | .ok _ => .error (.malformed "values.yaml must contain a mapping" (some 1))

/-! ## Questions -/

/-- The paths of all keys. -/
def paths (v : Values) : List String :=
  v.lines.map (·.1)

/-- The path is that of a key. -/
def hasPath (v : Values) (path : String) : Bool :=
  v.paths.contains path

/-- The line of a path. -/
def lineOf? (v : Values) (path : String) : Option Nat :=
  v.lines.lookup path

/-- The value under a key given as text: under that text if it is a key, else under
the first key that reads like it. -/
def child? (part : String) : Value → Option Value
  | .map entries =>
    match Value.find? (.text part) entries with
    | some v => some v
    | none => (entries.find? fun e => e.1.plain.toOption == some part).map (·.2)
  | _ => none

/-- The value reached from a value by keys. -/
def descend : Value → List String → Value
  | v, [] => v
  | v, part :: parts =>
    match child? part v with
    | some inner => descend inner parts
    | none => .null

/-- The value at a path, null if there is none. -/
def get (v : Values) (path : String) : Value :=
  descend v.value ((splitAtChar '.' path.toList).map String.ofList)

/-- Words that tell a secret. -/
def sensitiveWords : List String :=
  ["password", "secret", "token", "apikey", "api_key", "privatekey", "private_key", "credential"]

/-- The path tells that its value is a secret. -/
def isSensitive (path : String) : Bool :=
  sensitiveWords.any fun word => contains (lower path) word

/-- The paths of secrets. -/
def sensitivePaths (v : Values) : List String :=
  v.paths.filter isSensitive

end Values

end ContainerLint.Chart
