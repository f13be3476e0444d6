/-
The nodes of a document: scalars, sequences and mappings, each with the meaning its
tag gives it and the place it starts at. References are replaced by the nodes that
they refer to; a reference from inside a node to that node is a mark, which the node
that it stands for binds.
-/
import ContainerLint.Text.Cut
import ContainerLint.Value.Basic
import ContainerLint.Yaml.Tag

namespace ContainerLint.Yaml

open ContainerLint.Text

/-- A node of a document. Collections that take part in a cycle have a number, their
*tie*. -/
inductive Node where
  | scalar (tag : Tag) (text : String) (start : Mark) (style : ScalarStyle) (anchored : Bool)
  | sequence (tag : Tag) (items : List Node) (start : Mark) (tie : Option Nat)
  | mapping (tag : Tag) (entries : List (Node × Node)) (start : Mark) (tie : Option Nat)
  /-- A collection inside of itself. -/
  | again (id : Nat) (tag : Tag) (isMapping : Bool) (start : Mark)
  deriving Repr

namespace Node

/-- The tag of a node. -/
def tag : Node → Tag
  | .scalar tag .. => tag
  | .sequence tag .. => tag
  | .mapping tag .. => tag
  | .again _ tag .. => tag

/-- The place a node starts at. -/
def start : Node → Mark
  | .scalar _ _ start .. => start
  | .sequence _ _ start _ => start
  | .mapping _ _ start _ => start
  | .again _ _ _ start => start

/-- The kind of a node in messages. -/
def kind : Node → String
  | .scalar .. => "scalar"
  | .sequence .. | .again _ _ false _ => "sequence"
  | .mapping .. | .again _ _ true _ => "mapping"

/-- The nodes directly inside a node, as they are written. -/
def children : Node → List Node
  | .sequence _ items _ _ => items
  | .mapping _ entries _ _ => entries.flatMap fun (k, v) => [k, v]
  | _ => []

/-- The nodes directly inside a node that are no keys. -/
def values : Node → List Node
  | .mapping _ entries _ _ => entries.map (·.2)
  | n => n.children

/-- The node of an absent scalar. -/
def empty (start : Mark) : Node :=
  .scalar .null "" start .plain false

mutual

/-- Some collection comes again in the node. -/
def recurs : Node → Bool
  | .scalar .. => false
  | .sequence _ items _ _ => recursAny items
  | .mapping _ entries _ _ => recursEntries entries
  | .again .. => true

/-- Some collection comes again in one of the nodes. -/
def recursAny : List Node → Bool
  | [] => false
  | n :: ns => recurs n || recursAny ns

/-- Some collection comes again in one of the entries. -/
def recursEntries : List (Node × Node) → Bool
  | [] => false
  | (k, v) :: entries => recurs k || recurs v || recursEntries entries

end

mutual

/-- The node with a collection in each place where it comes again. -/
def fill (id : Nat) (whole : Node) : Node → Node
  | .scalar tag text start style anchored => .scalar tag text start style anchored
  | .sequence tag items start tie =>
    if tie == some id then .sequence tag items start tie
    else .sequence tag (fillAll id whole items) start tie
  | .mapping tag entries start tie =>
    if tie == some id then .mapping tag entries start tie
    else .mapping tag (fillEntries id whole entries) start tie
  | .again i tag isMapping start => if i == id then whole else .again i tag isMapping start

/-- Each node with a collection in each place where it comes again. -/
def fillAll (id : Nat) (whole : Node) : List Node → List Node
  | [] => []
  | n :: ns => fill id whole n :: fillAll id whole ns

/-- Each entry with a collection in each place where it comes again. -/
def fillEntries (id : Nat) (whole : Node) : List (Node × Node) → List (Node × Node)
  | [] => []
  | (k, v) :: entries => (fill id whole k, fill id whole v) :: fillEntries id whole entries

end

/-! ## Nodes in messages -/

/-- A node of a kind in words, given its contents in words. -/
def describeAs (kind : String) (tag : Tag) (contents : String) : String :=
  kind ++ "(tag=" ++ quoted tag.name ++ ", value=" ++ contents ++ ")"

mutual

/-- A node in words. -/
def describe : Node → String
  | .scalar tag text .. => describeAs "ScalarNode" tag (quoted text)
  | .sequence tag items .. =>
    describeAs "SequenceNode" tag ("[" ++ joinWith ", " (describeAll items) ++ "]")
  | .mapping tag entries .. =>
    describeAs "MappingNode" tag ("[" ++ joinWith ", " (describeEntries entries) ++ "]")
  | .again _ tag isMapping _ =>
    describeAs (if isMapping then "MappingNode" else "SequenceNode") tag "[...]"

/-- Each node in words. -/
def describeAll : List Node → List String
  | [] => []
  | n :: ns => describe n :: describeAll ns

/-- Each entry in words. -/
def describeEntries : List (Node × Node) → List String
  | [] => []
  | (k, v) :: entries => ("(" ++ describe k ++ ", " ++ describe v ++ ")") :: describeEntries entries

end

/-- What a node holds, in words. -/
def contents : Node → String
  | .scalar _ text .. => text
  | .sequence _ items .. => "[" ++ joinWith ", " (describeAll items) ++ "]"
  | .mapping _ entries .. => "[" ++ joinWith ", " (describeEntries entries) ++ "]"
  | .again .. => "[...]"

end Node

end ContainerLint.Yaml
