/-
Checks that follow the stages of a build file: which images and stages are known,
which user and working directory are set, and what may occur once in a stage.
-/
import ContainerLint.Rule.Dockerfile.Instruction
import ContainerLint.Text.Case

namespace ContainerLint.Dockerfile

open ContainerLint.Text

/-- A note with the words of the rule. -/
def noteAt (line : Nat) : List Note :=
  [⟨line, none, none⟩]

/-- The name of a stage in lower case, if it has one. -/
def stageOf (image : Image) : Option String :=
  match image.stage with
  | some s => if s.isEmpty then none else some (lower s)
  | none => none

/-! ## The user -/

/-- A user is the one that may do anything. -/
def isRoot (user : String) : Bool :=
  let name := match cutAt ':' user.toList with
    | some (name, _) => name
    | none => user.toList
  let name := String.ofList (trim name)
  name == "root" || name == "0"

/-- The last user that a stage sets, and its line. -/
def stepUser (last : Option (Nat × String)) (line : Nat) (n : Node) :
    Option (Nat × String) × List Note :=
  match n.instruction with
  | .base _ => (none, [])
  | .user user => (some (line, user), [])
  | _ => (last, [])

/-- The last user of the last stage is not the one that may do anything. -/
def lastUser : NodeChecker (Option (Nat × String)) :=
  Checker.ofStep none stepUser fun
    | some (line, user) => if isRoot user then noteAt line else []
    | none => []

/-! ## Base images -/

/-- The stages so far, with that of one more base image. -/
def addStage (stages : List String) (image : Image) : List String :=
  match stageOf image with
  | some s => if stages.contains s then stages else stages ++ [s]
  | none => stages

/-- The image is one of the stages so far. -/
def isStage (stages : List String) (image : Image) : Bool :=
  stages.contains (lower image.image)

/-- The step of `taggedImage`. -/
def stepTagged (stages : List String) (line : Nat) (n : Node) : List String × List Note :=
  match n.instruction with
  | .base image =>
    let fine := image.isScratch || image.isVariable || image.hasVersion || isStage stages image
    (addStage stages image, if fine then [] else noteAt line)
  | _ => (stages, [])

/-- Base images have a version. -/
def taggedImage : NodeChecker (List String) :=
  Checker.ofStep [] stepTagged fun _ => []

/-- The step of `uniqueStage`. -/
def stepUnique (stages : List String) (line : Nat) (n : Node) : List String × List Note :=
  match n.instruction with
  | .base image =>
    match stageOf image with
    | some s =>
      let message := "Duplicate `FROM` alias `" ++ image.stage.getD "" ++ "`."
      (addStage stages image, if stages.contains s then [⟨line, some message, none⟩] else [])
    | none => (stages, [])
  | _ => (stages, [])

/-- No two stages have the same name. -/
def uniqueStage : NodeChecker (List String) :=
  Checker.ofStep [] stepUnique fun _ => []

/-- The registry of images without one. -/
def defaultRegistry : String := "docker.io"

/-- The registry of an image, which need not name it. -/
def registryOrDefault (image : Image) : String :=
  match image.registry with
  | some r => if r.isEmpty then defaultRegistry else r
  | none => defaultRegistry

/-- A registry is among the trusted ones: an item of a list, a key of a mapping, a part
of a text. Other values cannot be searched. -/
def isTrusted (registry : String) (trusted : Value) : Except RuleError Bool :=
  match trusted.bare with
  | .list items => .ok (items.any (Value.same (.text registry)))
  | .tuple items => .ok (items.any (Value.same (.text registry)))
  | .set items => .ok (items.any (Value.same (.text registry)))
  | .map entries => .ok (entries.any fun e => Value.same (.text registry) e.1)
  | .ordered entries => .ok (entries.any fun e => Value.same (.text registry) e.1)
  | .text s => .ok (contains s registry)
  | .bytes _ => .error (.badOption "a bytes-like object is required, not 'str'")
  | .date _ => .error (.badOption "argument of type 'datetime.date' is not iterable")
  | .moment _ => .error (.badOption "argument of type 'datetime.datetime' is not iterable")
  | v => .error (.badOption ("argument of type '" ++ v.kindName ++ "' is not iterable"))

/-- The step of `trustedRegistry` with the given trusted registries. -/
def stepTrusted (trusted : Value) (stages : List String) (line : Nat) (n : Node) :
    Except RuleError (List String × List Note) :=
  match n.instruction with
  | .base image =>
    if !trusted.isTrue then .ok (stages, [])
    else if image.isScratch || image.isVariable || isStage stages image then
      .ok (addStage stages image, [])
    else do
      let registry := registryOrDefault image
      let message := "Use only an allowed registry in the `FROM image`: '" ++ registry ++
        "' is not trusted."
      let notes := if ← isTrusted registry trusted then [] else [Note.mk line (some message) none]
      return (addStage stages image, notes)
  | _ => .ok (stages, [])

/-- Base images come from trusted registries, if any are named. -/
def trustedRegistry (options : RuleOptions) : NodeChecker (List String) where
  start := []
  step := stepTrusted ((Value.find? (.text "trusted") options).getD .null)

/-! ## Once in a stage -/

/-- The step of `onceInStage`: whether the stage has had such an instruction. -/
def stepOnce (isKind : Instruction → Bool) (seen : Bool) (line : Nat) (n : Node) :
    Bool × List Note :=
  match n.instruction with
  | .base _ => (false, [])
  | i => if isKind i then (true, if seen then noteAt line else []) else (seen, [])

/-- Instructions of a kind occur at most once in a stage. -/
def onceInStage (isKind : Instruction → Bool) : NodeChecker Bool :=
  Checker.ofStep false (stepOnce isKind) fun _ => []

/-- The instruction is a health check. -/
def isHealthcheck : Instruction → Bool
  | .healthcheck _ => true
  | _ => false

/-- The instruction gives the command to start. -/
def isCmd : Instruction → Bool
  | .cmd _ => true
  | _ => false

/-- The instruction gives the entry point. -/
def isEntrypoint : Instruction → Bool
  | .entrypoint _ => true
  | _ => false

/-! ## Copies between stages -/

/-- The number that a text of digits writes, if it is one. -/
def indexOf? (source : String) : Except RuleError (Option Nat) :=
  let cs := source.toList
  if !cs.isEmpty && cs.all isDigit then
    match readDecimal cs with
    | .ok n => .ok (some n)
    | .error e => .error (.numeral e)
  else .ok none

/-- The name of a stage, its number if it has no name. -/
def stageName (image : Image) (index : Nat) : String :=
  (stageOf image).getD (toString index)

/-- The step of `copyFromKnown`: the names of the stages so far. -/
def stepCopyFrom (stages : List String) (line : Nat) (n : Node) :
    Except RuleError (List String × List Note) :=
  match n.instruction with
  | .base image => .ok (stages ++ [stageName image stages.length], [])
  | .copy _ _ flags =>
    match flags.origin with
    | none => .ok (stages, [])
    | some origin => do
      let source := lower origin
      let earlier := (← indexOf? source).any (· < stages.length)
      let external := source.toList.contains '/' || source.toList.contains ':'
      let message := "`COPY --from=" ++ origin ++ "` references an undefined stage."
      let known := stages.contains source || earlier || external
      return (stages, if known then [] else [⟨line, some message, none⟩])
  | _ => .ok (stages, [])

/-- Files are copied from stages that are known, or from images. -/
def copyFromKnown : NodeChecker (List String) where
  start := []
  step := stepCopyFrom

/-- The number of stages so far and the names of the last one. -/
structure CurrentStage where
  count : Nat
  names : List String
  deriving Repr, DecidableEq

/-- The step of `copyFromOther`. -/
def stepCopyFromSelf (current : CurrentStage) (line : Nat) (n : Node) : CurrentStage × List Note :=
  match n.instruction with
  | .base image =>
    (⟨current.count + 1, toString current.count :: (stageOf image).toList⟩, [])
  | .copy _ _ flags =>
    match flags.origin with
    | some origin => (current, if current.names.contains (lower origin) then noteAt line else [])
    | none => (current, [])
  | _ => (current, [])

/-- Files are not copied from the stage that copies them. -/
def copyFromOther : NodeChecker CurrentStage :=
  Checker.ofStep ⟨0, []⟩ stepCopyFromSelf fun _ => []

/-! ## The working directory -/

/-- Whether the current stage has a working directory, its name, and the names of the
stages that have one. -/
structure Workdirs where
  current : String
  isSet : Bool
  stages : List String
  deriving Repr, DecidableEq

/-- The step of `relativeCopy`. -/
def stepRelativeCopy (w : Workdirs) (line : Nat) (n : Node) : Workdirs × List Note :=
  match n.instruction with
  | .base image =>
    let parent := lower image.image
    let name := (stageOf image).getD parent
    let inherits := w.stages.contains parent
    (⟨name, inherits, if inherits then w.stages ++ [name] else w.stages⟩, [])
  | .workdir _ => ({ w with isSet := true, stages := w.stages ++ [w.current] }, [])
  | .copy _ destination _ =>
    (w, if w.isSet || Node.isAbsolute destination then [] else noteAt line)
  | _ => (w, [])

/-- Files are copied to relative places only where a working directory is set. -/
def relativeCopy : NodeChecker Workdirs :=
  Checker.ofStep ⟨"", false, []⟩ stepRelativeCopy fun _ => []

end ContainerLint.Dockerfile
