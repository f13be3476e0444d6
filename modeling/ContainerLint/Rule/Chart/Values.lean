/-
Checks on the values of a chart: that templates and values fit each other, and that
what a value says about ports, tags and replicas can be right.
-/
import ContainerLint.Rule.Chart.View

namespace ContainerLint.Chart

open ContainerLint.Text

/-- What a check finds in the values, if they could be read. -/
def inValues (check : Values → List Finding) (v : View) : List Finding :=
  match v.values with
  | some values => check values
  | none => []

/-- A finding about a path, at its line. -/
def aboutPath (values : Values) (path message : String) : Finding :=
  ⟨message, valuesFile, (values.lineOf? path).getD 1⟩

/-- The path itself and the paths around it. -/
def pathsAround (path : String) : List String :=
  let parts := splitAtChar '.' path.toList
  (List.range parts.length).map fun n => String.ofList (join ['.'] (parts.take (n + 1)))

/-- Every value that templates refer to is defined, or is inside one that is. -/
def undefinedValues (v : View) : List Finding :=
  inValues (fun values => (ordered v.valueReferences).flatMap fun r =>
    findIf (!(pathsAround r).any values.hasPath)
      ⟨"Value '.Values." ++ r ++ "' is referenced but not defined in values.yaml", valuesFile, 1⟩) v

/-- A reference and a path are about the same value, or one is inside the other. -/
def touches (reference path : String) : Bool :=
  reference == path || startsWith reference (path ++ ".") || startsWith path (reference ++ ".")

/-- Every value that is defined is used by templates. -/
def unusedValues (v : View) : List Finding :=
  inValues (fun values => values.paths.flatMap fun path =>
    findIf (!v.valueReferences.any (touches · path))
      (aboutPath values path ("Value '" ++ path ++ "' is defined but never used in templates"))) v

/-! ## Paths judged one by one -/

/-- What is said of a path by the value and the line that are found for it. -/
def atPath {α : Type} (judge : String → Value → Nat → α) (values : Values) (path : String) : α :=
  judge path (values.get path) ((values.lineOf? path).getD 1)

/-- What is found at each path of the values in turn; reading a number may fail. -/
def atPaths (judge : String → Value → Nat → Except RuleError (List Finding)) (v : View) :
    Except RuleError (List Finding) :=
  match v.values with
  | some values => (values.paths.mapM (atPath judge values)).map List.flatten
  | none => .ok []

/-- A value gives away a secret: it is a text, and no reference. -/
def isExposed : Value → Bool
  | .text s => !s.isEmpty && !startsWith s "$"
  | _ => false

/-- What is said of the value of a secret. -/
def judgeSecret (path : String) (value : Value) (line : Nat) : List Finding :=
  findIf (isExposed value) ⟨"Sensitive value '" ++ path ++
    "' has a hardcoded default. Consider using a Secret reference", valuesFile, line⟩

/-- No secret is given away. -/
def sensitiveValues : View → List Finding :=
  inValues fun values => values.sensitivePaths.flatMap (atPath judgeSecret values)

/-- The whole number that a value is or writes, if any. -/
def whole? : Value → Except RuleError (Option Int)
  | .int n => .ok (some n)
  | .text s =>
    let digits := dropFront (· == '-') (trim s.toList)
    if !digits.isEmpty && digits.all isDigit then
      ((readNumeral 10 s).map some).mapError .numeral
    else .ok none
  | _ => .ok none

/-- The ends of the names of ports. -/
def portEndings : List String := ["port", "containerport", "targetport", "hostport", "nodeport"]

/-- The path is that of a port. -/
def isPortPath (path : String) : Bool :=
  portEndings.any (endsWith (lower path))

/-- What is said of the value at a path that may be a port's. -/
def judgePort (path : String) (value : Value) (line : Nat) : Except RuleError (List Finding) :=
  if !isPortPath path then .ok []
  else do
    match ← whole? value with
    | some port =>
      if 1 ≤ port && port ≤ 65535 then return []
      let number ← (writeInt port).mapError .numeral
      return [⟨"Invalid port number " ++ number ++ " at '" ++ path ++
        "'. Must be between 1 and 65535", valuesFile, line⟩]
    | none => return []

/-- Ports have numbers that ports can have. -/
def badPorts : View → Except RuleError (List Finding) :=
  atPaths judgePort

/-- The value is the tag of the latest image. -/
def isLatest : Value → Bool
  | .text s => s == "latest"
  | _ => false

/-- What is said of the value at a path that may be a tag's. -/
def judgeTag (path : String) (value : Value) (line : Nat) : List Finding :=
  let folded := lower path
  findIf ((endsWith folded ".tag" || endsWith folded "imagetag") && isLatest value)
    ⟨"Image tag at '" ++ path ++
      "' is 'latest'. Pin to a specific version for reproducibility", valuesFile, line⟩

/-- No image is the latest one, whatever that is. -/
def latestTags : View → List Finding :=
  inValues fun values => values.paths.flatMap (atPath judgeTag values)

/-- What is said of the value at a path that may be that of a number of replicas. -/
def judgeReplicas (path : String) (value : Value) (line : Nat) :
    Except RuleError (List Finding) :=
  let folded := lower path
  if !(endsWith folded "replicacount" || endsWith folded "replicas") then .ok []
  else do
    let count ← whole? value
    return findIf (count == some 0) ⟨"Replica count at '" ++ path ++
      "' is 0. No pods will be created by default", valuesFile, line⟩

/-- Some copies of each service run. -/
def zeroReplicas : View → Except RuleError (List Finding) :=
  atPaths judgeReplicas

end ContainerLint.Chart
