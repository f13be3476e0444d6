/-
Files and directories as a value. A tree can be built path by path, looked up, and
walked through; here links are entries like any other and lead nowhere.
-/
import ContainerLint.Files.Path

namespace ContainerLint

/-- A file, a link to a path, or a directory of named entries. -/
inductive FileNode where
  | file (bytes : List UInt8)
  | link (target : String)
  | directory (entries : List (String × FileNode))
  deriving Repr

namespace FileNode

/-! ## Building -/

/-- A directory without entries. -/
def emptyDirectory : FileNode := .directory []

/-- The entries with a node put under a name, in the place of one that is there. -/
def putEntry (name : String) (node : FileNode) :
    List (String × FileNode) → List (String × FileNode)
  | [] => [(name, node)]
  | (n, old) :: rest =>
    if n == name then (n, node) :: rest else (n, old) :: putEntry name node rest

/-- The tree with a node put at a path of names, and with the directories around it. An
empty directory does not take the place of one that is there. -/
def insert (node : FileNode) : List String → FileNode → FileNode
  | [], old => match node, old with
    | .directory [], .directory entries => .directory entries
    | node, _ => node
  | name :: rest, .directory entries =>
    let inner := (entries.lookup name).getD emptyDirectory
    .directory (putEntry name (node.insert rest inner) entries)
  | name :: rest, _ => .directory [(name, node.insert rest emptyDirectory)]

/-! ## Looking up -/

/-- The node at a path of names. -/
def nodeAt? : List String → FileNode → Option FileNode
  | [], node => some node
  | name :: rest, .directory entries => (entries.lookup name).bind (nodeAt? rest)
  | _ :: _, _ => none

/-! ## Walking -/

mutual

/-- The paths of names to everything in a directory. -/
def walk (outer : List String) : FileNode → List (List String × FileNode)
  | .directory entries => walkEntries outer entries
  | _ => []

/-- The paths of names to entries and to everything in them. -/
def walkEntries (outer : List String) : List (String × FileNode) → List (List String × FileNode)
  | [] => []
  | (name, node) :: rest =>
    (outer ++ [name], node) :: walk (outer ++ [name]) node ++ walkEntries outer rest

end

/-- The paths of names to everything in a directory, in order. -/
def contents (node : FileNode) : List (List String × FileNode) :=
  (node.walk []).mergeSort fun a b => Path.notAfter a.1 b.1

end FileNode

end ContainerLint
