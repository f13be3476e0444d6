/-
Reading a Dockerfile. Each logical line is one instruction, read by the reader of
its keyword; the first line that cannot be read ends the reading, and no part of
the document is returned then.
-/
import ContainerLint.Dockerfile.ExecForm
import ContainerLint.Dockerfile.Flag
import ContainerLint.Dockerfile.LogicalLine
import ContainerLint.Dockerfile.Mount
import ContainerLint.Dockerfile.Port

namespace ContainerLint.Dockerfile

open ContainerLint.Text

/-- A reader of an instruction's arguments, given the trimmed text after the keyword. -/
abbrev ArgumentReader := List Char → Except InstructionError Instruction

/-- The instruction cannot be read because of the given fault. -/
def fail {α : Type} (fault : Fault) : Except InstructionError α :=
  .error (.fault fault none)

/-! ## Parts that several instructions share -/

/-- A text that may not be empty. -/
def requireText (keyword : String) (rest : List Char) : Except InstructionError String :=
  if rest.isEmpty then fail (.argumentMissing keyword) else .ok (String.ofList rest)

/-- Arguments: in exec form if the text is one, else in shell form. -/
def readArguments (keyword : String) (rest : List Char) : Except InstructionError Arguments :=
  if rest.isEmpty then fail (.argumentsMissing keyword)
  else match ExecForm.read? rest with
    | some items => .ok (.exec items)
    | none => .ok (.shell (String.ofList rest))

/-- The words of a text, quotes and backslashes observed. -/
def readWords (keyword : String) (rest : List Char) : Except InstructionError (List (List Char)) :=
  match Shell.splitWords rest with
  | .ok ws => .ok ws
  | .error e => fail (.unevenQuotes keyword e)

/-- The sources and the destination of a copying instruction: the last path is the
destination, and a lone path is both. -/
def splitPaths (keyword : String) (paths : List String) :
    Except InstructionError (List String × String) :=
  match paths.reverse with
  | [] => fail (.pathMissing keyword)
  | [path] => .ok ([path], path)
  | destination :: sources => .ok (sources.reverse, destination)

/-- The paths of a copying instruction. -/
def readPaths (keyword : String) (rest : List Char) :
    Except InstructionError (List String × String) := do
  match ← readArguments keyword rest with
  | .exec items => splitPaths keyword items
  | .shell text => splitPaths keyword ((← readWords keyword text.toList).map String.ofList)

/-- A `key=value` word. -/
def readPair (keyword : String) (word : List Char) : Except InstructionError (String × String) :=
  match cutAt '=' word with
  | some (c :: key, value) => .ok (String.ofList (c :: key), String.ofList value)
  | _ => fail (.pairExpected keyword (String.ofList word))

/-- The pairs of an ENV or LABEL instruction. Where the first word has no equals sign,
the text is one key, up to the first space, and its value. -/
def readPairs (keyword : String) (rest : List Char) :
    Except InstructionError (List (String × String)) :=
  match cutWord rest with
  | none => fail (.argumentMissing keyword)
  | some (first, _) =>
    if first.contains '=' then do
      (← readWords keyword rest).mapM (readPair keyword)
    else
      let (key, value) := (cutAt ' ' rest).getD (rest, [])
      .ok [(String.ofList key, String.ofList (trim value))]

/-! ## The readers, one per keyword -/

/-- The base image of a stage. -/
def readFrom : ArgumentReader := fun rest => do
  let (flags, rest) ← splitFlags "FROM" ["platform"] rest
  if flags.any fun (_, value) => value.getD "" == "" then fail .platformWithoutValue
  let platform := (flags.getLast?.bind (·.2))
  match words rest with
  | [] => fail .imageMissing
  | [image] => return .base (Image.ofReference (String.ofList image) none platform)
  | [image, word, stage] =>
    if lower (String.ofList word) == "as" then
      return .base (Image.ofReference (String.ofList image) (some (String.ofList stage)) platform)
    else fail .stageShape
  | _ => fail .stageShape

/-- The mounts among a RUN instruction's flags. -/
def readMounts (flags : List Flag) : Except InstructionError (List Mount) :=
  (flags.filter (·.1 == "mount")).mapM fun (_, value) => Mount.ofSpec (value.getD "").toList

/-- A command to run while building. -/
def readRun : ArgumentReader := fun rest => do
  let (flags, rest) ← splitFlags "RUN" ["mount", "network", "security"] rest
  let mounts ← readMounts flags
  return .run (← readArguments "RUN" rest)
    { mounts := mounts
      network := flagText? flags "network"
      security := flagText? flags "security" }

/-- Files to copy from the context or a stage. -/
def readCopy : ArgumentReader := fun rest => do
  let (flags, rest) ←
    splitFlags "COPY" ["from", "chown", "chmod", "link", "parents", "exclude"] rest
  let (sources, destination) ← readPaths "COPY" rest
  return .copy sources destination {
    origin := flagText? flags "from"
    chown := flagText? flags "chown"
    chmod := flagText? flags "chmod"
    link := flagOn flags "link" }

/-- Files, web addresses or archives to add. -/
def readAdd : ArgumentReader := fun rest => do
  let (flags, rest) ←
    splitFlags "ADD" ["chown", "chmod", "checksum", "link", "keep-git-dir"] rest
  let (sources, destination) ← readPaths "ADD" rest
  return .add sources destination {
    chown := flagText? flags "chown"
    chmod := flagText? flags "chmod"
    checksum := flagText? flags "checksum"
    link := flagOn flags "link" }

/-- Ports to expose. -/
def readExpose : ArgumentReader := fun rest => do
  let text ← requireText "EXPOSE" rest
  return .expose (← (words text.toList).mapM Port.ofWord)

/-- A text without one pair of equal quotes around it. -/
def unquoteOnce (cs : List Char) : List Char :=
  match cs, cs.getLast? with
  | c :: d :: back, some last =>
    if (c == '"' || c == '\'') && c == last then (d :: back).dropLast else cs
  | _, _ => cs

/-- The name of a build argument: a letter or an underscore, then word characters, dots
and dashes. -/
def isArgName (cs : List Char) : Bool :=
  isName (fun c => c.isAlpha || c == '_') Marker.isMarkerChar cs

/-- A build argument, perhaps with a default. -/
def readArg : ArgumentReader := fun rest => do
  let text ← requireText "ARG" rest
  let (front, default) := match cutAt '=' text.toList with
    | some (front, back) => (front, some (String.ofList (unquoteOnce (trim back))))
    | none => (text.toList, none)
  let name := trim front
  if isArgName name then return .arg (String.ofList name) default
  else fail (.invalidArgName (String.ofList name))

/-- The shell of the instructions that follow. -/
def readShell : ArgumentReader := fun rest => do
  match ← readArguments "SHELL" rest with
  | .exec (item :: items) => return .shell (.exec (item :: items))
  | _ => fail .shellNotExec

/-- Volumes to create. -/
def readVolume : ArgumentReader := fun rest => do
  return .volume (← readArguments "VOLUME" rest).words

/-- A check of the container's health, or none at all. -/
def readHealthcheck : ArgumentReader := fun rest => do
  let text ← requireText "HEALTHCHECK" rest
  if upper text == "NONE" then return .healthcheck none
  let (flags, rest) ← splitFlags "HEALTHCHECK"
    ["interval", "timeout", "start-period", "start-interval", "retries"] rest
  let (word, command) := (cutAt ' ' rest).getD (rest, [])
  if upper (String.ofList word) != "CMD" then fail .healthcheckShape
  let retries := flagText? flags "retries"
  if retries.any fun r => r.isEmpty || !r.toList.all isDigit then fail .retriesNotNumber
  let arguments ← readArguments "HEALTHCHECK CMD" (trim command)
  let count ← retries.mapM fun r => (readDecimal r.toList).mapError .numeral
  return .healthcheck (some {
    arguments := arguments
    interval := flagText? flags "interval"
    timeout := flagText? flags "timeout"
    startPeriod := flagText? flags "start-period"
    startInterval := flagText? flags "start-interval"
    retries := count })

/-- The reader of a keyword in upper case, ONBUILD left aside. -/
def reader? : String → Option ArgumentReader
  | "FROM" => some readFrom
  | "RUN" => some readRun
  | "COPY" => some readCopy
  | "ADD" => some readAdd
  | "ENV" => some fun rest => (readPairs "ENV" rest).map .env
  | "LABEL" => some fun rest => (readPairs "LABEL" rest).map .label
  | "EXPOSE" => some readExpose
  | "ARG" => some readArg
  | "ENTRYPOINT" => some fun rest => (readArguments "ENTRYPOINT" rest).map .entrypoint
  | "CMD" => some fun rest => (readArguments "CMD" rest).map .cmd
  | "SHELL" => some readShell
  | "USER" => some fun rest => (requireText "USER" rest).map .user
  | "WORKDIR" => some fun rest => (requireText "WORKDIR" rest).map .workdir
  | "VOLUME" => some readVolume
  | "MAINTAINER" => some fun rest => (requireText "MAINTAINER" rest).map .maintainer
  | "STOPSIGNAL" => some fun rest => (requireText "STOPSIGNAL" rest).map .stopSignal
  | "HEALTHCHECK" => some readHealthcheck
  | _ => none

/-- An instruction that is not ONBUILD. -/
def readPlain (word rest : List Char) : Except InstructionError Instruction :=
  match reader? (upper (String.ofList word)) with
  | some reader => reader (trim rest)
  | none => .error (.fault (.unknownInstruction (String.ofList word)) (some 1))

/-- The instruction that a text denotes: its first word is the keyword, in any case,
and the rest its arguments. ONBUILD defers one other instruction. -/
def readInstruction (text : List Char) : Except InstructionError Instruction :=
  match cutWord text with
  | none => fail .emptyInstruction
  | some (word, rest) =>
    if upper (String.ofList word) == "ONBUILD" then
      match cutWord (trim rest) with
      | none => fail (.argumentMissing "ONBUILD")
      | some (inner, rest) =>
        if upper (String.ofList inner) == "ONBUILD" then fail .nestedOnBuild
        else (readPlain inner rest).map .onBuild
    else readPlain word rest

/-! ## Documents -/

/-- The script of a heredoc body: its lines that are neither blank nor comments. -/
def scriptOf (body : List Char) : List Char :=
  join ['\n'] ((splitAtChar '\n' body).filter fun row => !allBlank row && !isCommentLine row)

/-- The text of a RUN instruction that is nothing but flags and one heredoc marker, with
the body's script in place of the marker; any other text as it is. -/
def inlineHeredoc (text body : List Char) : List Char :=
  match cutWord text with
  | some (word, rest) =>
    if upper (String.ofList word) == "RUN" then
      match writtenFlags? rest with
      | some (flags, marker) =>
        let script := scriptOf body
        if Marker.isWhole marker && !script.isEmpty then
          join [' '] (word :: flags ++ [script])
        else text
      | none => text
    else text
  | none => text

/-- The instruction of a logical line. -/
def LogicalLine.instruction (l : LogicalLine) : Except InstructionError Instruction :=
  match l.text with
  | '#' :: text => .ok (.comment (String.ofList (trim text)))
  | text =>
    match l.bodies with
    | body :: _ => readInstruction (inlineHeredoc text body)
    | [] => readInstruction text

/-- The instruction of a logical line, with its place. -/
def LogicalLine.positioned (l : LogicalLine) : Except ParseError Positioned :=
  match l.instruction with
  | .ok instruction => .ok ⟨instruction, l.line, String.ofList l.source⟩
  | .error e => .error (e.atLine l.line)

/-- The physical lines of a document: byte order marks at its front are dropped, and
every kind of line end counts as one. -/
def physicalLines (text : String) : List (List Char) :=
  splitAtChar '\n' (unifyNewlines (text.toList.dropWhile (· == Char.ofNat 0xFEFF)))

/-- The instructions of a document, or what is wrong with the first line that cannot
be read. -/
def parse (text : String) : Except ParseError (List Positioned) :=
  (logicalLines (physicalLines text)).mapM fun line => line.bind LogicalLine.positioned

end ContainerLint.Dockerfile
