/-
The program: it reads the files that its arguments name into a tree, runs on that, and
prints what comes of it.
-/
import ContainerLint.Cli.Json
import ContainerLint.Cli.Run

namespace ContainerLint.Program

open ContainerLint.Text

/-! ## Reading files -/

/-- The path of names from the root. -/
def absolutePath (names : List String) : String :=
  "/" ++ joinWith "/" names

/-- The names from the root to what a path leads to. -/
def realNames (path : String) : IO (List String) := do
  return (Path.ofText (← IO.FS.realPath path).toString).parts

/-- The entry of a path of names. -/
def entryOf (names : List String) : IO.FS.DirEntry :=
  ⟨absolutePath names.dropLast, names.getLastD "."⟩

/-- The tree with what is at a path of names, and with all that is in it if `deep`. What
cannot be read is left out. -/
partial def addNode (deep : Bool) (tree : FileNode) (names : List String) : IO FileNode := do
  let path := (entryOf names).path
  try
    match (← path.symlinkMetadata).type with
    | .dir =>
      let tree := FileNode.emptyDirectory.insert names tree
      if deep then
        (← path.readDir).foldlM (fun tree e => addNode true tree (names ++ [e.fileName])) tree
      else return tree
    | .symlink =>
      let real ← try realNames (absolutePath names) catch _ => pure names
      let tree := (FileNode.link (absolutePath real)).insert names tree
      if real == names then return tree else addNode false tree real
    | _ =>
      let bytes ← IO.FS.readBinFile path
      return (FileNode.file bytes.toList).insert names tree
  catch _ => return tree

/-- The tree with what is on the way of a path, and with all that it leads to. -/
def addPath (here : List String) (tree : FileNode) (text : String) : IO FileNode := do
  let path := Path.ofText text
  let start := if path.isAbsolute then [] else here
  let mut tree := tree
  for n in List.range path.parts.length do
    let outer ← try realNames (absolutePath (start ++ path.parts.take n)) catch _ => return tree
    tree ← addNode false tree (outer ++ (path.parts.drop n).take 1)
  try
    addNode true tree (← realNames (absolutePath (start ++ path.parts)))
  catch _ => return tree

/-- The tree with the files of settings in the directories around a path. -/
def addSettings (here : List String) (tree : FileNode) (text : String) : IO FileNode := do
  let path := Path.ofText text
  let parts := if path.isAbsolute then path.parts else here ++ path.parts
  let names ← try realNames (absolutePath parts) catch _ => pure parts
  let candidates := (Settings.directoriesOut names).flatMap fun directory =>
    Settings.fileNames.map fun name => directory ++ [name]
  candidates.foldlM (addNode false) tree

/-- What a request can see of the world. -/
def workspaceFor (request : Cli.Request) : IO Workspace := do
  let here ← realNames "."
  let tree := FileNode.emptyDirectory.insert here FileNode.emptyDirectory
  let tree ← match request with
    | .lint r => do
      let tree ← (r.paths ++ r.config.toList).foldlM (addPath here) tree
      addSettings here tree (r.paths.headD ".")
    | _ => pure tree
  return ⟨⟨"/", []⟩, here, tree⟩

/-- The lines of a stream, put together. -/
partial def readAll (stream : IO.FS.Stream) (text : String) : IO String := do
  let line ← stream.getLine
  if line.isEmpty then return text else readAll stream (text ++ line)

/-- The standard input, if a request needs it. -/
def inputFor : Cli.Request → IO Cli.StandardInput
  | .lint r => do
    if r.command == .docker && r.paths.contains "-" then
      return .text (← readAll (← IO.getStdin) "")
    else return .text ""
  | _ => return .text ""

/-! ## Printing -/

/-- Prints a line of a report. -/
def printLine : Cli.Line → IO Unit
  | .text s => IO.println s
  | .row cells => IO.println ("│ " ++ joinWith " │ " cells ++ " │")

/-- Prints what a run prints. -/
def printOutput : Cli.Output → IO Unit
  | .screen lines => lines.forM printLine
  | .json results summary => IO.println ((Cli.Json.ofResults results summary).write 0)
  | .usage message => IO.eprintln message
  | .information lines => lines.forM fun line => IO.println line

end ContainerLint.Program

open ContainerLint ContainerLint.Program in
/-- Runs the program. -/
def main (args : List String) : IO UInt32 := do
  let request := match Cli.readRequest args with
    | .ok request => request
    | .error _ => .overview
  match Cli.runGuarded (← workspaceFor request) (← inputFor request) args with
  | .ok outcome =>
    for warning in outcome.warnings do
      IO.eprintln ("WARNING lintcuro.config: " ++ warning.message)
    printOutput outcome.output
    if args.isEmpty then Cli.mainHelp.forM fun line => IO.println line
    return UInt32.ofNat outcome.exitCode
  | .error e =>
    IO.eprintln e.message
    return 1
