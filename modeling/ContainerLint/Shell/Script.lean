/-
A RUN script as a list of simple commands. This is no shell: the script is split
at control operators, and each command keeps its name, its arguments and, among
those, its flags. That is enough to ask which programs a script uses and how.
-/
import ContainerLint.Shell.Words
import ContainerLint.Text.Cut

namespace ContainerLint.Shell

open ContainerLint.Text

/-! ## Commands -/

/-- One simple command of a script. -/
structure Command where
  /-- The program. -/
  name : String
  /-- Its arguments, flags included. -/
  arguments : List String := []
  /-- The arguments that a dash starts, a lone dash left out. -/
  flags : List String := []
  deriving Repr, DecidableEq

namespace Command

/-- The flag is given. -/
def hasFlag (c : Command) (flag : String) : Bool :=
  c.flags.contains flag

/-- `-m pip install` stands somewhere among the arguments. -/
def callsPipModule : List String → Bool
  | [] => false
  | word :: rest => ["-m", "pip", "install"].isPrefixOf (word :: rest) || callsPipModule rest

/-- The command installs packages with pip, by itself or as a module. -/
def isPipInstall (c : Command) : Bool :=
  (startsWith c.name "pip" && !startsWith c.name "pipenv" && c.arguments.contains "install") ||
    (startsWith c.name "python" && callsPipModule c.arguments)

/-- The command installs packages with apt-get. -/
def isAptGetInstall (c : Command) : Bool :=
  c.name == "apt-get" && c.arguments.contains "install"

/-- The word assigns an environment variable for the command after it. -/
def isAssignment (word : String) : Bool :=
  word.toList.contains '=' && !startsWith word "-"

/-- The argument is a flag. -/
def isFlag (word : String) : Bool :=
  startsWith word "-" && word != "-"

/-- The words of a command without the assignments before its name. -/
def dropAssignments : List String → List String
  | word :: next :: rest =>
    if isAssignment word then dropAssignments (next :: rest) else word :: next :: rest
  | words => words

/-- The command that a list of words makes up; none if the list is empty. -/
def ofWords? (ws : List String) : Option Command :=
  match dropAssignments ws with
  | [] => none
  | name :: arguments => some ⟨name, arguments, arguments.filter isFlag⟩

end Command

/-! ## Scripts -/

/-- The characters that control operators are made of. -/
def isOperatorChar (c : Char) : Bool :=
  c == ';' || c == '&' || c == '|'

/-- The words that end one command and start the next. -/
def controlOperators : List String := ["&&", "||", ";", "|", "&", ";;", "|&"]

/-- The script on one line: an escaped line end is a blank, and any other ends a
command. -/
def onOneLine (script : List Char) : List Char :=
  replaceAll ['\n'] [' ', ';', ' '] (replaceAll ['\\', '\n'] [' '] script)

/-- The words of a script whose quotes do not match: blanks and the commonest operators
separate them. -/
def looseWords (line : List Char) : List (List Char) :=
  words (replaceAll "||".toList " || ".toList
    (replaceAll "&&".toList " && ".toList (replaceAll [';'] " ; ".toList line)))

/-- The words and operators of a script. -/
def tokens (script : String) : List String :=
  let line := onOneLine script.toList
  match scanWords isOperatorChar .between [] false line with
  | .ok ws => ws.map String.ofList
  | .error _ => (looseWords line).map String.ofList

/-- The word is a control operator. -/
def isControl (word : String) : Bool :=
  controlOperators.contains word

/-- A script, split into commands. -/
structure Script where
  /-- The text of the script. -/
  text : String
  /-- Its commands in order. -/
  commands : List Command
  /-- One command's output goes to another. -/
  hasPipes : Bool
  deriving Repr, DecidableEq

namespace Script

/-- The commands of a script. -/
def ofText (script : String) : Script :=
  let ws := tokens script
  { text := script
    commands := (splitBy isControl ws).filterMap Command.ofWords?
    hasPipes := ws.contains "|" || ws.contains "|&" }

/-- The names of the commands. -/
def names (s : Script) : List String :=
  s.commands.map (·.name)

/-- Some command is the given program. -/
def usesProgram (s : Script) (program : String) : Bool :=
  s.commands.any (·.name == program)

/-- Some command has the given property. -/
def anyCommand (s : Script) (p : Command → Bool) : Bool :=
  s.commands.any p

end Script

end ContainerLint.Shell
