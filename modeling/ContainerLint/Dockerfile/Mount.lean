/-
The specification of a build mount: `key=value` parts between commas. Keys are
read without case, the last part with a key counting, and a part without an equals
sign gives its key no value.
-/
import ContainerLint.Dockerfile.Error
import ContainerLint.Dockerfile.Instruction

namespace ContainerLint.Dockerfile.Mount

open ContainerLint.Text

/-- The options of a mount, in the order they are written. -/
abbrev Options := List (String × Option String)

/-- One option: a key, and a value where an equals sign follows it. -/
def readOption (part : List Char) : String × Option String :=
  match cutAt '=' part with
  | some (key, value) =>
    (lower (String.ofList (trim key)), some (String.ofList (trim value)))
  | none => (lower (String.ofList (trim part)), none)

/-- The options of a specification; empty parts do not count. -/
def readOptions (spec : List Char) : Options :=
  ((splitAtChar ',' spec).filter (!·.isEmpty)).map readOption

/-- What the options say of a key: `none` where it is not given, `some none` where it
is given without a value. -/
def find? (options : Options) (key : String) : Option (Option String) :=
  options.reverse.lookup key

/-- The value of a key. -/
def text? (options : Options) (key : String) : Option String :=
  (find? options key).join

/-- The first key whose value is not empty; where there is none, the value of the last
key. -/
def firstText? (options : Options) : List String → Option String
  | [] => none
  | [key] => text? options key
  | key :: keys =>
    match text? options key with
    | some value => if value.isEmpty then firstText? options keys else some value
    | none => firstText? options keys

/-- The number that a key is given. -/
def number? (options : Options) (key : String) : Except InstructionError (Option Nat) :=
  match text? options key with
  | none => .ok none
  | some value =>
    if !value.isEmpty && value.toList.all isDigit then
      match readDecimal value.toList with
      | .ok n => .ok (some n)
      | .error e => .error (.numeral e)
    else .error (.fault (.mountNumber key) none)

/-- A switch under any of several keys, the first one given counting: on without a
value, or with a word for yes. -/
def switch (options : Options) : List String → Bool
  | [] => false
  | key :: keys =>
    match find? options key with
    | none => switch options keys
    | some none => true
    | some (some value) => ["true", "1", "yes"].contains (lower value)

/-- The type that a word names. -/
def type? : String → Option MountType
  | "bind" => some .bind
  | "cache" => some .cache
  | "tmpfs" => some .tmpfs
  | "secret" => some .secret
  | "ssh" => some .ssh
  | _ => none

/-- The word for the type: an absent or empty one stands for a bind mount. -/
def typeWord (options : Options) : String :=
  match text? options "type" with
  | some value => if value.isEmpty then "bind" else lower value
  | none => "bind"

/-- The mount that a specification describes. -/
def ofSpec (spec : List Char) : Except InstructionError Mount := do
  let options := readOptions spec
  let word := typeWord options
  match type? word with
  | none => .error (.fault (.mountType word) none)
  | some type =>
    let uid ← number? options "uid"
    let gid ← number? options "gid"
    return {
      type := type
      target := firstText? options ["target", "dst", "destination"]
      source := firstText? options ["source", "src"]
      origin := text? options "from"
      id := text? options "id"
      sharing := text? options "sharing"
      mode := text? options "mode"
      uid := uid
      gid := gid
      readonly := switch options ["ro", "readonly"]
      required := switch options ["required"]
      size := text? options "size" }

end ContainerLint.Dockerfile.Mount
