/-
The arguments of a command line. An argument is an operand, an option, or the divider
after which there are only operands. An option goes by one of its names, or by the
beginning of a long name that fits no other.
-/
import ContainerLint.Text.Cut
import ContainerLint.Text.Digit
import ContainerLint.Text.Quoted

namespace ContainerLint.Cli

open ContainerLint.Text

/-! ## Options -/

/-- What an option is for. -/
inductive OptionKind where
  | flag
  /-- The option has a value; if there are choices, one of those. -/
  | value (choices : List String)
  | help
  | version
  deriving Repr, DecidableEq

/-- An option. Names of one letter belong to options without values. -/
structure OptionSpec where
  names : List String
  kind : OptionKind
  deriving Repr, DecidableEq

/-- How messages call an option. -/
def OptionSpec.label (o : OptionSpec) : String :=
  joinWith "/" o.names

/-- What is wrong with arguments. -/
inductive UsageError where
  | ambiguous (written : String) (names : List String)
  | missingValue (label : String)
  | unwantedValue (label value : String)
  | badChoice (label value : String) (choices : List String)
  | missingOperand (name : String)
  | unrecognized (arguments : List String)
  deriving Repr, DecidableEq

/-- The wording of an error. -/
def UsageError.message : UsageError → String
  | .ambiguous written names =>
    "ambiguous option: " ++ written ++ " could match " ++ joinWith ", " names
  | .missingValue label => "argument " ++ label ++ ": expected one argument"
  | .unwantedValue label value =>
    "argument " ++ label ++ ": ignored explicit argument " ++ quoted value
  | .badChoice label value choices =>
    "argument " ++ label ++ ": invalid choice: " ++ quoted value ++ " (choose from " ++
      joinWith ", " (choices.map quoted) ++ ")"
  | .missingOperand name => "the following arguments are required: " ++ name
  | .unrecognized arguments => "unrecognized arguments: " ++ joinWith " " arguments

/-- What ends the reading of arguments early. -/
inductive Halt where
  | usage (e : UsageError)
  | help
  | version
  deriving Repr, DecidableEq

/-! ## Kinds of arguments -/

/-- An option that is used: under which name, and with which value in the same argument,
an equals sign before it or not. -/
structure OptionUse where
  spec : OptionSpec
  name : String
  value : Option (List Char × Bool)
  deriving Repr, DecidableEq

/-- An argument. -/
inductive Argument where
  | operand (text : String)
  /-- An option, which may be unknown. -/
  | option (text : String) (use : Option OptionUse)
  | divider
  deriving Repr, DecidableEq

/-- The argument as it is written. -/
def Argument.text : Argument → String
  | .operand text | .option text _ => text
  | .divider => "--"

/-- The argument is an option. -/
def Argument.isOption : Argument → Bool
  | .option .. => true
  | _ => false

/-- The options by their names. -/
def byName (options : List OptionSpec) : List (String × OptionSpec) :=
  options.flatMap fun o => o.names.map fun name => (name, o)

/-- The ways to read an argument that starts with a hyphen and is not the name of an
option. -/
def readings (options : List OptionSpec) (text : String) : List OptionUse :=
  let (start, value) := match cutAt '=' text.toList with
    | some (start, value) => (start, some (value, true))
    | none => (text.toList, none)
  if startsWith text "--" then
    (byName options).filterMap fun (name, o) =>
      if startsWith name (String.ofList start) then some ⟨o, name, value⟩ else none
  else
    (byName options).filterMap fun (name, o) =>
      if name.toList == text.toList.take 2 then some ⟨o, name, some (text.toList.drop 2, false)⟩
      else none

/-- A minus sign and digits, with a point before the last of them perhaps; a line feed
may end the text. -/
def isNegativeNumber (cs : List Char) : Bool :=
  match dropLineFeed cs with
  | '-' :: rest =>
    match cutAt '.' rest with
    | some (whole, part) => whole.all isDecimal && !part.isEmpty && part.all isDecimal
    | none => !rest.isEmpty && rest.all isDecimal
  | _ => false

/-- The kind of an argument that is not the divider. -/
def classify (options : List OptionSpec) (text : String) : Except UsageError Argument :=
  match text.toList with
  | '-' :: _ :: _ =>
    match (byName options).lookup text with
    | some o => .ok (.option text (some ⟨o, text, none⟩))
    | none =>
      let named := (cutAt '=' text.toList).bind fun (name, value) =>
        ((byName options).lookup (String.ofList name)).map fun o =>
          OptionUse.mk o (String.ofList name) (some (value, true))
      match named, readings options text with
      | some use, _ => .ok (.option text (some use))
      | none, [use] => .ok (.option text (some use))
      | none, [] =>
        if isNegativeNumber text.toList || text.toList.contains ' ' then .ok (.operand text)
        else .ok (.option text none)
      | none, uses => .error (.ambiguous text (uses.map (·.name)))
  | _ => .ok (.operand text)

/-- The kinds of all arguments. -/
def classifyAll (options : List OptionSpec) : List String → Except UsageError (List Argument)
  | [] => .ok []
  | text :: rest =>
    if text == "--" then .ok (.divider :: rest.map .operand)
    else do return (← classify options text) :: (← classifyAll options rest)

/-! ## Reading -/

/-- Which operands are wanted. -/
inductive OperandRule where
  | absent
  /-- One or more, up to the next option. -/
  | oneOrMore
  /-- One, and everything after it as it is written. -/
  | commandAndRest
  deriving Repr, DecidableEq

/-- The arguments start with an operand, a divider before it perhaps. -/
def startsWithOperand : List Argument → Bool
  | .operand _ :: _ => true
  | .divider :: rest => startsWithOperand rest
  | _ => false

/-- The operands at the start of arguments, and what follows them. -/
def takeOperands? (rule : OperandRule) (args : List Argument) :
    Option (List String × List Argument) :=
  if !startsWithOperand args then none
  else match rule with
    | .absent => none
    | .oneOrMore =>
      let taken := args.takeWhile (!·.isOption)
      some ((taken.filter (· != .divider)).map Argument.text, args.drop taken.length)
    | .commandAndRest => some (args.map Argument.text, [])

/-- What has been read: options with their values, operands, and what fits nothing. -/
structure Reading where
  uses : List (OptionSpec × String) := []
  operands : List String := []
  extras : List String := []
  deriving Repr, DecidableEq

/-- Options of one letter that stand together in one argument, and what is left of it.
`value` is what follows the name of `o`. -/
def bundle (options : List OptionSpec) (o : OptionSpec) (afterEquals : Bool) :
    List Char → Except UsageError (List OptionSpec × List String)
  | [] => .error (.unwantedValue o.label "")
  | c :: cs =>
    if afterEquals || c == '-' then .error (.unwantedValue o.label (String.ofList (c :: cs)))
    else match (byName options).lookup (String.ofList ['-', c]) with
      | none => .ok ([o], [String.ofList ('-' :: c :: cs)])
      | some next =>
        match cs with
        | [] => .ok ([o, next], [])
        | '=' :: value => do
          let (more, extras) ← bundle options next true value
          return (o :: more, extras)
        | d :: value => do
          let (more, extras) ← bundle options next false (d :: value)
          return (o :: more, extras)

/-- The reading with options without values. -/
def Reading.use (r : Reading) : List OptionSpec → Except Halt Reading
  | [] => .ok r
  | o :: rest =>
    match o.kind with
    | .help => .error .help
    | .version => .error .version
    | _ => { r with uses := r.uses ++ [(o, "")] }.use rest

/-- The reading with an option and its value. -/
def Reading.useValue (r : Reading) (o : OptionSpec) (choices : List String) (value : String) :
    Except Halt Reading :=
  if choices.isEmpty || choices.contains value then
    .ok { r with uses := r.uses ++ [(o, value)] }
  else .error (.usage (.badChoice o.label value choices))

/-- The reading with an option, and the arguments that follow. -/
def Reading.readOption (r : Reading) (options : List OptionSpec) (u : OptionUse)
    (rest : List Argument) : Except Halt (Reading × List Argument) :=
  match u.spec.kind, u.value with
  | .value choices, some (value, _) => do
    return (← r.useValue u.spec choices (String.ofList value), rest)
  | .value choices, none =>
    match rest with
    | .operand value :: rest => do return (← r.useValue u.spec choices value, rest)
    | _ => .error (.usage (.missingValue u.spec.label))
  | _, none => do return (← r.use [u.spec], rest)
  | _, some (value, afterEquals) =>
    if startsWith u.name "--" then
      .error (.usage (.unwantedValue u.spec.label (String.ofList value)))
    else
      match bundle options u.spec afterEquals value with
      | .error e => .error (.usage e)
      | .ok (uses, extras) => do
        return (← { r with extras := r.extras ++ extras }.use uses, rest)

/-- Reads arguments, so many at most. Operands are read once. -/
def readFrom (options : List OptionSpec) :
    Nat → OperandRule → Reading → List Argument → Except Halt Reading
  | 0, _, r, _ => .ok r
  | limit + 1, rule, r, args =>
    match args with
    | [] => .ok r
    | .option text none :: rest =>
      readFrom options limit rule { r with extras := r.extras ++ [text] } rest
    | .option _ (some u) :: rest => do
      let (r, rest) ← r.readOption options u rest
      readFrom options limit rule r rest
    | args =>
      match takeOperands? rule args with
      | some (operands, rest) =>
        readFrom options limit .absent { r with operands := operands } rest
      | none =>
        let skipped := args.takeWhile (!·.isOption)
        readFrom options limit rule { r with extras := r.extras ++ skipped.map Argument.text }
          (args.drop skipped.length)

/-- Reads arguments. -/
def readArguments (options : List OptionSpec) (rule : OperandRule) (args : List String) :
    Except Halt Reading :=
  match classifyAll options args with
  | .error e => .error (.usage e)
  | .ok args => readFrom options args.length rule {} args

end ContainerLint.Cli
