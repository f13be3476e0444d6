/-
From nodes to plain values. Mappings take in the mappings they merge, and refuse
keys that are written twice or cannot be keys. A document is checked level by
level, outermost first, so of two faults the one nearer the root is reported; the
values are then built in one walk.
-/
import ContainerLint.Value.Render
import ContainerLint.Yaml.NodeReader
import ContainerLint.Yaml.Scalar

namespace ContainerLint.Yaml

open ContainerLint.Text

/-! ## Merged mappings -/

/-- A key, where the tag of a lone equals sign is that of a text. -/
def plainKey : Node → Node
  | .scalar .value text start style anchored => .scalar .text text start style anchored
  | n => n

/-- A key that merges cannot come twice. -/
def duplicateMerge (start : Mark) (k : Node) : Error :=
  .marked (some (.mapping, start)) (.duplicateMerge k.contents) k.start

/-- The value of a key that merges must be a mapping or a list of them. -/
def mergeNeedsMappings (start : Mark) (v : Node) : Error :=
  .marked (some (.mapping, start)) (.mergeNeedsMappings v.kind) v.start

/-- The items of a list that is merged must be mappings. -/
def mergeNeedsMapping (start : Mark) (n : Node) : Error :=
  .marked (some (.mapping, start)) (.mergeNeedsMapping n.kind) n.start

/-- The entries that a mapping merges when it is told to merge itself. -/
def ownEntries (entries : List (Node × Node)) : List (Node × Node) :=
  (entries.filter fun e => e.1.tag != .merge).map fun e => (plainKey e.1, e.2)

mutual

/-- The entries of a mapping that it merges, and its own. -/
def merged : Node → Except Error (List (Node × Node) × List (Node × Node))
  | .mapping _ entries start _ => mergedEntries start (ownEntries entries) [] [] entries
  | _ => .ok ([], [])

/-- The entries of a mapping from one on, those before it split already. A mapping that
comes again merges the entries that are its own. -/
def mergedEntries (start : Mark) (self taken own : List (Node × Node)) :
    List (Node × Node) → Except Error (List (Node × Node) × List (Node × Node))
  | [] => .ok (taken, own)
  | (k, v) :: rest =>
    if k.tag != .merge then mergedEntries start self taken (own ++ [(plainKey k, v)]) rest
    else if !taken.isEmpty then .error (duplicateMerge start k)
    else match v with
      | .mapping tag entries inner tie => do
        let (theirs, ours) ← merged (.mapping tag entries inner tie)
        mergedEntries start self (taken ++ theirs ++ ours) own rest
      | .sequence _ items _ _ => do
        let parts ← mergedItems start self items
        mergedEntries start self (taken ++ parts.reverse.flatten) own rest
      | .again _ _ true _ => mergedEntries start self (taken ++ self) own rest
      | v => .error (mergeNeedsMappings start v)

/-- The entries of each mapping of a list. -/
def mergedItems (start : Mark) (self : List (Node × Node)) :
    List Node → Except Error (List (List (Node × Node)))
  | [] => .ok []
  | .mapping tag entries inner tie :: rest => do
    let (theirs, ours) ← merged (.mapping tag entries inner tie)
    return (theirs ++ ours) :: (← mergedItems start self rest)
  | .again _ _ true _ :: rest => return self :: (← mergedItems start self rest)
  | n :: _ => .error (mergeNeedsMapping start n)

end

/-! ## Keys -/

mutual

/-- The first part of a value that cannot be part of a key. -/
def unhashable? : Value → Option Value
  | .tuple items => unhashableItem? items
  | .frozen entries => unhashablePair? entries
  | .list items => some (.list items)
  | .map entries => some (.map entries)
  | .ordered entries => some (.ordered entries)
  | .set items => some (.set items)
  | .orderedSet items => some (.orderedSet items)
  | .knot id inner => some (.knot id inner)
  | .again id shape => some (.again id shape)
  | _ => none

/-- The first part of some values that cannot be part of a key. -/
def unhashableItem? : List Value → Option Value
  | [] => none
  | v :: vs => (unhashable? v).or (unhashableItem? vs)

/-- The first part of some entries that cannot be part of a key. -/
def unhashablePair? : List (Value × Value) → Option Value
  | [] => none
  | (k, v) :: entries => ((unhashable? k).or (unhashable? v)).or (unhashablePair? entries)

end

/-- The key that a value makes. A list becomes a tuple; a mapping is none. -/
def keyOf (mapping place : Mark) (v : Value) : Except Error Value :=
  match v.bare with
  | .list items => .ok (.tuple items)
  | .again _ .list => .error (.fault (.unhashable "dict"))
  | .map _ | .ordered _ | .set _ | .again .. =>
    .error (.marked (some (.mapping, mapping)) .unhashableKey place)
  | v => .ok v

/-- The key holds nothing that cannot be part of a key. -/
def checkHash (key : Value) : Except Error Unit :=
  match unhashable? key with
  | some v => .error (.fault (.unhashable v.kindName))
  | none => .ok ()

/-- A value in a message about a document. -/
def plainText (v : Value) : Except Error String :=
  v.plain.mapError fun e => .fault (.numeral e)

/-- The key is not among those before it. -/
def checkNew (mapping place : Mark) (entries : List (Value × Value)) (key value : Value) :
    Except Error Unit := do
  match Value.find? key entries with
  | some old =>
    let problem := .duplicateKey (← plainText key) (← plainText value) (← plainText old)
    throw (.marked (some (.mapping, mapping)) problem place)
  | none => return ()

/-! ## Kinds of nodes -/

/-- The node cannot be of the kind that its tag asks for. -/
def wrongKind (wanted : String) (n : Node) : Error :=
  .marked none (.expectedNode wanted n.kind) n.start

mutual

/-- The text of a scalar. A mapping may have one, under a lone equals sign. -/
def scalarText : Node → Except Error String
  | .scalar _ text .. => .ok text
  | .mapping tag entries start tie =>
    (valueText? entries).getD (.error (wrongKind "scalar" (.mapping tag entries start tie)))
  | n => .error (wrongKind "scalar" n)

/-- The text under a lone equals sign, if there is one. -/
def valueText? : List (Node × Node) → Option (Except Error String)
  | [] => none
  | (k, v) :: rest => if k.tag == .value then some (scalarText v) else valueText? rest

end

/-- A timestamp that cannot be read. -/
def badTimestamp (n : Node) : Error :=
  .marked none (.badTimestamp n.contents) n.start

/-- The value of a node under a tag of scalars, given how its text is found. -/
def scalarValue (m : Manner) (text : Node → Except Error String) (n : Node) :
    Except Error Value := do
  match n.tag, n with
  | .timestamp, .sequence .. | .timestamp, .mapping .. | .timestamp, .again .. =>
    throw (badTimestamp n)
  | tag, _ =>
    match readScalar m tag "" n.start with
    | none => throw (.marked none (.unknownTag tag.name) n.start)
    | some _ =>
      let written ← text n
      (readScalar m tag written n.start).getD (.ok .null)

/-- The value of a scalar; a node under the tag of collections is an empty one of its
kind for now. -/
def outerValue (m : Manner) (n : Node) : Except Error Value :=
  match n.tag with
  | .sequence | .pairs => .ok (.list [])
  | .mapping => .ok (.map [])
  | .set => .ok (.set [])
  | .orderedMapping => .ok (.ordered [])
  | _ => scalarValue m scalarText n

/-- The node under a tag of collections has its value on a level of its own. -/
def isOuter (n : Node) : Bool :=
  match n.tag, n with
  | _, .again .. => false
  | .sequence, _ | .mapping, _ | .set, _ | .orderedMapping, _ | .pairs, _ => true
  | _, _ => false

/-- What a collection that comes again is, by its tag. -/
def shapeOf : Tag → Shape
  | .sequence | .pairs => .list
  | .orderedMapping => .ordered
  | _ => .map

/-! ## Building -/

/-- The entries of a mapping built one by one: `key` builds keys in full, and `value`
values as far as they are wanted. Keys are checked unless mappings are merged. -/
def buildEntries (key value : Node → Except Error Value) (start : Mark) (checked : Bool) :
    List (Value × Value) → List (Node × Node) → Except Error (List (Value × Value))
  | built, [] => .ok built
  | built, (k, v) :: rest => do
    let key' ← keyOf start k.start (← key k)
    let value' ← value v
    checkHash key'
    if checked then checkNew start k.start built key' value'
    buildEntries key value start checked (Value.put key' value' built) rest

/-- The entries of a mapping, merged ones first. -/
def buildMapping (key value : Node → Except Error Value) (n : Node) :
    Except Error (List (Value × Value)) := do
  match n with
  | .mapping .. =>
    let (theirs, ours) ← merged n
    buildEntries key value n.start theirs.isEmpty [] (theirs ++ ours)
  | _ => throw (wrongKind "mapping" n)

/-- The only entry of a mapping in a list of such. -/
def singleEntry (activity : Activity) (start : Mark) : Node → Except Error (Node × Node)
  | .mapping _ [entry] _ _ => .ok entry
  | .mapping _ entries inner _ =>
    .error (.marked (some (activity, start)) (.orderedNeedsOne entries.length) inner)
  | n => .error (.marked (some (activity, start)) (.orderedNeedsMapping n.kind) n.start)

/-- The items of a sequence of mappings of one entry. -/
def singleItems (activity : Activity) (n : Node) : Except Error (List Node) :=
  match n with
  | .sequence _ items _ _ => .ok items
  | _ => .error (.marked (some (activity, n.start)) (.orderedNeedsSequence n.kind) n.start)

/-- The entries of an ordered mapping built one by one. -/
def buildOrdered (value : Node → Except Error Value) (start : Mark) :
    List (Value × Value) → List Node → Except Error (List (Value × Value))
  | built, [] => .ok built
  | built, item :: rest => do
    let (k, v) ← singleEntry .orderedMapping start item
    let key ← value k
    checkHash key
    if (Value.find? key built).isSome then throw (.fault .repeatedKey)
    let value' ← value v
    buildOrdered value start (built ++ [(key, value')]) rest

/-- The pairs of a list built one by one. -/
def buildPairs (value : Node → Except Error Value) (start : Mark) :
    List Node → Except Error (List (Value × Value))
  | [] => .ok []
  | item :: rest => do
    let (k, v) ← singleEntry .pairs start item
    let pair := (← value k, ← value v)
    return pair :: (← buildPairs value start rest)

/-- A pair as a value. -/
def pairValue (pair : Value × Value) : Value :=
  .tuple [pair.1, pair.2]

/-- The items of a sequence built one by one. -/
def buildItems (value : Node → Except Error Value) (n : Node) : Except Error (List Value) :=
  match n with
  | .sequence _ items _ _ => items.mapM value
  | _ => .error (wrongKind "sequence" n)

/-- The tie of a collection. -/
def tieOf? : Node → Option Nat
  | .sequence _ _ _ tie => tie
  | .mapping _ _ _ tie => tie
  | _ => none

/-- How a node is built: keys are whole before they are used, so inside a key the
collections that are open hold nothing yet. -/
structure Stance where
  isKey : Bool
  /-- The ties of the collections that are open in the key. -/
  opened : List Nat
  deriving Repr, DecidableEq

/-- The stance inside a collection. -/
def Stance.inside (s : Stance) (n : Node) : Stance :=
  match tieOf? n with
  | some id => { s with opened := id :: s.opened }
  | none => s

/-- The value of a collection, tied to the places where it comes again. -/
def Stance.bind (s : Stance) (n : Node) (v : Value) : Value :=
  match tieOf? n with
  | some id => if s.isKey then v else .knot id v
  | none => v

/-- The value of a node in full. Fuel is the depth of the document. -/
def build (m : Manner) : Nat → Stance → Node → Except Error Value
  | 0, _, n => .error (.marked none .tooDeep n.start)
  | fuel + 1, stance, n => do
    let value := build m fuel (if stance.isKey then stance.inside n else stance)
    let key := build m fuel (if stance.isKey then stance.inside n else ⟨true, []⟩)
    match n with
    | .again id tag _ _ => return if stance.opened.contains id then .null else .again id (shapeOf tag)
    | _ => match n.tag with
      | .sequence => return stance.bind n (.list (← buildItems value n))
      | .mapping => return stance.bind n (.map (← buildMapping key value n))
      | .set => return .set ((← buildMapping key value n).map (·.1))
      | .orderedMapping =>
        let items ← singleItems .orderedMapping n
        return stance.bind n (.ordered (← buildOrdered value n.start [] items))
      | .pairs =>
        let items ← singleItems .pairs n
        return stance.bind n (.list ((← buildPairs value n.start items).map pairValue))
      | _ => outerValue m n

/-- The nodes on the level below a collection. The values on the collection's own
level are checked. -/
def checkLevel (m : Manner) (fuel : Nat) (n : Node) : Except Error (List Node) := do
  let key := build m fuel ⟨true, []⟩
  let value := outerValue m
  match n.tag, n with
  | .sequence, .sequence _ items _ _ =>
    let _ ← items.mapM value
    return items.filter isOuter
  | .sequence, _ => throw (wrongKind "sequence" n)
  | .mapping, _ | .set, _ =>
    let _ ← buildMapping key value n
    let (theirs, ours) ← merged n
    return ((theirs ++ ours).map (·.2)).filter isOuter
  | .orderedMapping, _ =>
    let items ← singleItems .orderedMapping n
    let _ ← buildOrdered value n.start [] items
    let entries ← items.mapM (singleEntry .orderedMapping n.start)
    return (entries.map (·.2)).filter isOuter
  | .pairs, _ =>
    let items ← singleItems .pairs n
    let _ ← buildPairs value n.start items
    let entries ← items.mapM (singleEntry .pairs n.start)
    return (entries.flatMap fun (k, v) => [k, v]).filter isOuter
  | _, _ => return []

/-- Every level of a document is sound, from the given one down. -/
def checkLevels (m : Manner) (depth : Nat) : Nat → List Node → Except Error Unit
  | 0, _ => .ok ()
  | fuel + 1, nodes =>
    if nodes.isEmpty then .ok ()
    else do
      let below ← nodes.mapM (checkLevel m depth)
      checkLevels m depth fuel below.flatten

/-- The value of a document; an absent document is null. -/
def load (text : String) : Except Error Value := do
  let document := text.toList
  match ← readRoot false document with
  | none => return .null
  | some (root, edition) =>
    let depth := document.length + 8
    let m := Manner.mk edition false
    let _ ← outerValue m root
    checkLevels m depth depth (if isOuter root then [root] else [])
    build m depth ⟨false, []⟩ root

end ContainerLint.Yaml
