/-
What the pragmas of a file switch off: everything, some codes in the whole file, or
some codes on some lines. Sets are lists without repetition, and the codes of lines
are kept line by line, so that uniting two states unites the sets.
-/
import ContainerLint.Text.Case
import ContainerLint.Text.Cut

namespace ContainerLint

open ContainerLint.Text

/-- What pragmas switch off, and the shell they name. -/
structure Pragmas where
  /-- Nothing is reported for the file. -/
  disabled : Bool
  /-- The codes that are not reported for the file. -/
  fileCodes : List String
  /-- The codes that are not reported for a line. -/
  lineCodes : List (Int × List String)
  /-- The shell that commands are meant for. -/
  shell : Option String
  deriving Repr, DecidableEq

namespace Pragmas

/-- The code that stands for all codes. -/
def wildcard : String := "*"

/-- No pragmas. -/
def none : Pragmas := ⟨false, [], [], Option.none⟩

/-- The first list, and what the second adds to it. -/
def union (codes more : List String) : List String :=
  more.foldl (fun all code => if all.contains code then all else all ++ [code]) codes

/-- The codes of the lines with more codes for one line. -/
def addLine (line : Int) (codes : List String) :
    List (Int × List String) → List (Int × List String)
  | [] => [(line, union [] codes)]
  | (n, own) :: rest =>
    if n == line then (n, union own codes) :: rest else (n, own) :: addLine line codes rest

/-- The pragmas with more codes for one line. -/
def ignoreLine (p : Pragmas) (line : Int) (codes : List String) : Pragmas :=
  { p with lineCodes := addLine line codes p.lineCodes }

/-- The pragmas with more codes for the file. -/
def ignoreFile (p : Pragmas) (codes : List String) : Pragmas :=
  { p with fileCodes := union p.fileCodes codes }

/-- The codes of one line. -/
def codesAt (p : Pragmas) (line : Int) : List String :=
  (p.lineCodes.lookup line).getD []

/-- The list holds a code, by itself or by the wildcard. -/
def covers (codes : List String) (code : String) : Bool :=
  codes.contains code || codes.contains wildcard

/-- A code is not reported for a line. -/
def ignores (p : Pragmas) (code : String) (line : Int) : Bool :=
  p.disabled || covers p.fileCodes code || covers (p.codesAt line) code

/-- The first shell that is not empty. -/
def firstShell (a b : Option String) : Option String :=
  match a with
  | some s => if s.isEmpty then b else a
  | Option.none => b

/-- What either state switches off. -/
def merge (a b : Pragmas) : Pragmas where
  disabled := a.disabled || b.disabled
  fileCodes := union a.fileCodes b.fileCodes
  lineCodes := b.lineCodes.foldl (fun lines (line, codes) => addLine line codes lines) a.lineCodes
  shell := firstShell a.shell b.shell

/-- What a state switches off for the whole file. -/
def fileLevel (p : Pragmas) : Pragmas :=
  { p with lineCodes := [] }

/-- The shells with a language of their own. -/
def foreignShells : List String := ["pwsh", "powershell", "cmd"]

/-- The name of the program that a shell's command line starts, in lower case. -/
def shellProgram (shell : String) : Option String :=
  let unquoted := dropEnds (fun c => c == '"' || c == '\'') (trim shell.toList)
  (words unquoted).head?.map fun word =>
    lower (String.ofList ((splitBy (fun c => c == '/' || c == '\\') word).getLastD []))

/-- Commands are meant for a shell of the common language. -/
def isPosix (p : Pragmas) : Bool :=
  match p.shell.bind shellProgram with
  | some program => !foreignShells.any (startsWith program)
  | Option.none => true

end Pragmas

/-- The codes in a text, between commas and blanks, in upper case. -/
def splitCodes (cs : List Char) : List String :=
  ((splitBy (fun c => c == ',' || isBlank c) cs).filter (!·.isEmpty)).map fun code =>
    upper (String.ofList code)

end ContainerLint
