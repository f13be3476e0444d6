/-
What a run can see of the world: a tree of files with a place in it. A path leads from
that place, or from the top, through directories and links; what lies outside of the
tree is taken for empty.
-/
import ContainerLint.Files.Tree
import ContainerLint.Text.Quoted
import ContainerLint.Text.Utf8

namespace ContainerLint

open ContainerLint.Text

/-- Why a path cannot be followed or read. -/
inductive AccessError where
  | missing
  | notDirectory
  | isDirectory
  | tooManyLinks
  deriving Repr, DecidableEq

/-- The number and the wording of an error. -/
def AccessError.reason : AccessError → Nat × String
  | .missing => (2, "No such file or directory")
  | .notDirectory => (20, "Not a directory")
  | .isDirectory => (21, "Is a directory")
  | .tooManyLinks => (40, "Too many levels of symbolic links")

/-- The wording of an error about a path. -/
def AccessError.message (e : AccessError) (path : String) : String :=
  "[Errno " ++ toString e.reason.1 ++ "] " ++ e.reason.2 ++ ": " ++ quoted path

/-- Why the text of a file cannot be had. -/
inductive ReadError where
  | access (e : AccessError) (path : String)
  | decoding (e : Utf8Error)
  deriving Repr, DecidableEq

/-- The wording of an error. -/
def ReadError.message : ReadError → String
  | .access e path => e.message path
  | .decoding e => e.message

/-- A tree of files, the path of its top, and the working directory in it. -/
structure Workspace where
  top : Path
  here : List String
  tree : FileNode
  deriving Repr

/-- A place: names from the top of a tree, or nothing for all that is outside. -/
abbrev Place := Option (List String)

namespace Workspace

/-! ## Following paths -/

/-- The place that a path starts from, and the names that lead on from there. -/
def start (w : Workspace) (here : Place) (p : Path) : Place × List String :=
  if !p.isAbsolute then (here, p.parts)
  else if p.anchor == w.top.anchor && w.top.parts.isPrefixOf p.parts then
    (some [], p.parts.drop w.top.parts.length)
  else (none, p.parts)

/-- The place around a place; the root is around itself. -/
def around (w : Workspace) : Place → Place
  | none => none
  | some [] => if w.top == ⟨"/", []⟩ then some [] else none
  | some names => some names.dropLast

/-- Where following names ends: at a place, or at a link on the way. -/
inductive Arrival where
  | place (p : Place)
  | link (here : Place) (target : Path) (rest : List String)

/-- Follows names from a place up to the first link. -/
def follow (w : Workspace) (here : Place) : List String → Except AccessError Arrival
  | [] => .ok (.place here)
  | name :: rest =>
    match here with
    | none => if name == ".." then w.follow none rest else .error .missing
    | some names =>
      match w.tree.nodeAt? names with
      | some (.directory entries) =>
        if name == ".." then w.follow (w.around here) rest
        else match entries.lookup name with
          | none => .error .missing
          | some (.link target) => .ok (.link here (Path.ofText target) rest)
          | some _ => w.follow (some (names ++ [name])) rest
      | some _ => .error .notDirectory
      | none => .error .missing

/-- The most links that a path may lead through. -/
def mostLinks : Nat := 40

/-- Follows names from a place through so many links. -/
def locate (w : Workspace) : Nat → Place × List String → Except AccessError Place
  | links, (here, names) =>
    match w.follow here names with
    | .error e => .error e
    | .ok (.place p) => .ok p
    | .ok (.link here target rest) =>
      match links with
      | 0 => .error .tooManyLinks
      | links + 1 =>
        let (here, names) := w.start here target
        w.locate links (here, names ++ rest)

/-- The place that a path leads to. -/
def place (w : Workspace) (p : Path) : Except AccessError Place :=
  w.locate mostLinks (w.start (some w.here) p)

/-- The file or directory that a path leads to. -/
def find (w : Workspace) (p : Path) : Except AccessError FileNode :=
  match w.place p with
  | .error e => .error e
  | .ok none => .ok .emptyDirectory
  | .ok (some names) =>
    match w.tree.nodeAt? names with
    | some node => .ok node
    | none => .error .missing

/-- The path leads to something. -/
def hasPath (w : Workspace) (p : Path) : Bool :=
  match w.find p with
  | .ok _ => true
  | .error _ => false

/-- The path leads to a directory. -/
def isDirectory (w : Workspace) (p : Path) : Bool :=
  match w.find p with
  | .ok (.directory _) => true
  | _ => false

/-- The path leads to a file. -/
def isFile (w : Workspace) (p : Path) : Bool :=
  match w.find p with
  | .ok (.file _) => true
  | _ => false

/-- The text of the file that a path leads to. -/
def readText (w : Workspace) (p : Path) : Except ReadError String :=
  match w.find p with
  | .ok (.file bytes) =>
    match fileText bytes with
    | .ok text => .ok text
    | .error e => .error (.decoding e)
  | .ok _ => .error (.access .isDirectory p.render)
  | .error e => .error (.access e p.render)

/-! ## Settling paths -/

/-- Where names lead from a place up to the first link; names that lead nowhere are
taken for those of directories. -/
def settleNames (w : Workspace) (here : Place) : List String → Arrival
  | [] => .place here
  | name :: rest =>
    if name == ".." then w.settleNames (w.around here) rest
    else match here with
      | none => w.settleNames none rest
      | some names =>
        match w.tree.nodeAt? (names ++ [name]) with
        | some (.link target) => .link here (Path.ofText target) rest
        | _ => w.settleNames (some (names ++ [name])) rest

/-- Where names lead from a place through so many links. -/
def settleFrom (w : Workspace) : Nat → Place × List String → Place
  | links, (here, names) =>
    match w.settleNames here names with
    | .place p => p
    | .link here target rest =>
      match links with
      | 0 => none
      | links + 1 =>
        let (here, names) := w.start here target
        w.settleFrom links (here, names ++ rest)

/-- The place that a path would lead to if all was there. -/
def settle (w : Workspace) (p : Path) : Place :=
  w.settleFrom mostLinks (w.start (some w.here) p)

/-- The path of names from the top. -/
def fromTop (w : Workspace) (names : List String) : Path :=
  w.top.append names

end Workspace

end ContainerLint
