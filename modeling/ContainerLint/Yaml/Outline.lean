/-
From nodes to values with an outline: the line on which each key of each mapping is
written. Here a mapping is built in one walk from left to right; its own keys come
before those it merges, which count as written where the mapping starts; and nodes
under tags without a meaning are kept. A document that is no mapping is first checked
level by level down to its mappings.

A collection that comes again inside of itself is there already if it was *begun* before
it was read, as the mapping at the root is, and otherwise is not there yet and counts as
null.
-/
import ContainerLint.Yaml.Load

namespace ContainerLint.Yaml

/-- Where the keys of a value are written. -/
inductive Outline where
  /-- A value without keys. -/
  | leaf
  /-- A mapping: its keys, the line of each, and the outline of its value. -/
  | mapping (entries : List (Value × Nat × Outline))
  deriving Repr

/-- An entry of a mapping with the line of its key. -/
structure OutlinedEntry where
  key : Value
  value : Value
  line : Nat
  outline : Outline
  deriving Repr

/-- How the nodes of a document are read into values with outlines. -/
abbrev OutlineReader := Node → Except Error (Value × Outline)

/-- The value and outline of a mapping with the given entries. -/
def ofEntries (entries : List OutlinedEntry) : Value × Outline :=
  (.map (entries.map fun e => (e.key, e.value)),
    .mapping (entries.map fun e => (e.key, e.line, e.outline)))

/-- The entries of an outlined mapping. -/
def toEntries : Value × Outline → List OutlinedEntry
  | (.map values, .mapping lines) =>
    (values.zip lines).map fun ((key, value), (_, line, outline)) => ⟨key, value, line, outline⟩
  | _ => []

/-! ## Merged mappings -/

/-- The node is a mapping. -/
def isMappingNode (n : Node) : Bool :=
  n.kind == "mapping"

/-- The mappings that a mapping merges, read when they are met, and its own entries. A
list of mappings is read as a whole before its items are looked at. -/
def mergeNodes (inner : OutlineReader) (start : Mark) (taken : List (Value × Outline))
    (own : List (Node × Node)) :
    List (Node × Node) → Except Error (List (Value × Outline) × List (Node × Node))
  | [] => .ok (taken, own)
  | (k, v) :: rest => do
    if k.tag != .merge then mergeNodes inner start taken (own ++ [(plainKey k, v)]) rest
    else if !taken.isEmpty then throw (duplicateMerge start k)
    else match v with
      | .sequence _ items _ _ =>
        let _ ← inner v
        match items.find? (!isMappingNode ·) with
        | some n => throw (mergeNeedsMapping start n)
        | none =>
          let theirs ← items.mapM inner
          mergeNodes inner start (taken ++ theirs) own rest
      | v =>
        if isMappingNode v then
          mergeNodes inner start (taken ++ [← inner v]) own rest
        else throw (mergeNeedsMappings start v)

/-- The entries with those of a merged mapping that they lack, each on the given line. -/
def mergeEntries (line : Nat) (entries : List OutlinedEntry) (theirs : List OutlinedEntry) :
    List OutlinedEntry :=
  theirs.foldl (fun built e =>
    if built.any (fun own => own.key.same e.key) then built
    else built ++ [{ e with line := line }]) entries

/-- The entries with those of all merged mappings that they lack. A set cannot be merged,
nor can a mapping that is not there yet. -/
def mergeAll (line : Nat) (entries : List OutlinedEntry) :
    List (Value × Outline) → Except Error (List OutlinedEntry)
  | [] => .ok entries
  | (.map values, o) :: rest => mergeAll line (mergeEntries line entries (toEntries (.map values, o))) rest
  | _ :: _ => .error (.fault .notCollection)

/-! ## Keys -/

/-- The key that a value makes: a list or a mapping takes the form of a key. -/
def outlineKey (mapping place : Mark) : Value → Except Error Value
  | .list items => .ok (.tuple items)
  | .map entries => .ok (.frozen entries)
  | .orderedSet _ => .error (.marked (some (.mapping, mapping)) .unhashableKey place)
  | v => .ok v

/-- The item of a set that a value makes: a list takes the form of a key. -/
def outlineItem (set place : Mark) : Value → Except Error Value
  | .list items => .ok (.tuple items)
  | .map _ | .orderedSet _ => .error (.marked (some (.mapping, set)) .unhashableKey place)
  | v => .ok v

/-- The name of a kind of collection that cannot be part of a key. -/
def outlineKindName : Value → String
  | .list _ | .again _ .list => "CommentedSeq"
  | .map _ | .again _ .map => "CommentedMap"
  | v => v.kindName

/-- The key holds nothing that cannot be part of a key. -/
def checkOutlineHash (key : Value) : Except Error Unit :=
  match unhashable? key with
  | some v => .error (.fault (.unhashable (outlineKindName v)))
  | none => .ok ()

/-! ## Collections -/

/-- A mapping's own entries, built one by one: by the entries so far, `key` reads keys and
`value` values. -/
def outlineEntries (key value : List OutlinedEntry → OutlineReader) (start : Mark) :
    List OutlinedEntry → List (Node × Node) → Except Error (List OutlinedEntry)
  | built, [] => .ok built
  | built, (k, v) :: rest => do
    let key' ← outlineKey start k.start (← key built k).1
    let (value', outline) ← value built v
    checkOutlineHash key'
    checkNew start k.start (built.map fun e => (e.key, e.value)) key' value'
    outlineEntries key value start (built ++ [⟨key', value', k.start.line + 1, outline⟩]) rest

/-- The outlined entries of a mapping: by the entries so far, `key` reads keys and merged
mappings, and `value` values. -/
def outlineMapping (key value : List OutlinedEntry → OutlineReader) (n : Node) :
    Except Error (List OutlinedEntry) :=
  match n with
  | .mapping _ entries start _ => do
    let (theirs, own) ← mergeNodes (key []) start [] [] entries
    mergeAll (start.line + 1) (← outlineEntries key value start [] own) theirs
  | _ => .error (wrongKind "mapping" n)

/-- The items of a set, built one by one. -/
def outlineItems (key value : OutlineReader) (start : Mark) :
    List Value → List (Node × Node) → Except Error (List Value)
  | built, [] => .ok built
  | built, (k, v) :: rest => do
    let item ← outlineItem start k.start (← key k).1
    let _ ← value v
    checkOutlineHash item
    if built.any (·.same item) then
      throw (.marked (some (.set, start)) (.duplicateItem (← plainText item)) k.start)
    outlineItems key value start (built ++ [item]) rest

/-- The node may be a set or an ordered mapping. -/
def checkCollection (n : Node) : Except Error Unit :=
  match n with
  | .scalar .. => .error (.fault .notCollection)
  | _ => .ok ()

/-- The items of a set. -/
def outlineSet (key value : OutlineReader) (n : Node) : Except Error (List Value) := do
  checkCollection n
  match n with
  | .mapping _ entries start _ => outlineItems key value start [] entries
  | _ => throw (wrongKind "mapping" n)

/-- The entries of an ordered mapping, built one by one; all count as written where it
starts. -/
def outlineOrdered (value : OutlineReader) (start : Mark) :
    List OutlinedEntry → List Node → Except Error (List OutlinedEntry)
  | built, [] => .ok built
  | built, item :: rest => do
    let (k, v) ← singleEntry .orderedMapping start item
    let (key, _) ← value k
    checkOutlineHash key
    if built.any (·.key.same key) then throw (.fault .repeatedKey)
    let (value', outline) ← value v
    outlineOrdered value start (built ++ [⟨key, value', start.line + 1, outline⟩]) rest

/-! ## Nodes -/

/-- The text of a scalar, which nothing else has. -/
def writtenText : Node → Except Error String
  | .scalar _ text .. => .ok text
  | n => .error (wrongKind "scalar" n)

/-- The value of a node under a tag of scalars. A truth value under an anchor counts as a
number, and a scalar under a tag without a meaning keeps it. -/
def outlineScalar (m : Manner) (n : Node) : Except Error Value :=
  match n with
  | .scalar tag text start style anchored =>
    match readScalar m tag text start with
    | some (.ok (.bool b)) => .ok (if anchored then .int (if b then 1 else 0) else .bool b)
    | some result => result
    | none => .ok (.tagged ⟨text, style, tag.name, start.index⟩)
  | _ => scalarValue m writtenText n

/-- The result of reading a node under a tag without a meaning, which hides what went
wrong inside. -/
def hidden {α : Type} (n : Node) : Except Error α → Except Error α
  | .ok result => .ok result
  | .error _ => .error (.marked none (.unknownTag n.tag.name) n.start)

/-- The collections that are there before a node is read, though they may not be whole. -/
structure Begun where
  /-- The ties of those that come again. -/
  ties : List Nat
  /-- The entries so far of the mapping at the root. -/
  entries : List OutlinedEntry

/-- Keys and merged mappings are read as they are now: a mapping that was begun has the
entries so far. -/
def Begun.now (b : Begun) (inner : OutlineReader) : OutlineReader
  | .again id tag true start =>
    if b.ties.contains id then .ok (ofEntries b.entries) else inner (.again id tag true start)
  | n => inner n

/-- The value and outline of a node. Fuel is the depth of the document. -/
def outline (m : Manner) : Nat → Begun → OutlineReader
  | 0, _, n => .error (.marked none .tooDeep n.start)
  | fuel + 1, begun, n => do
    let inner := outline m fuel begun
    let now := begun.now inner
    let value := fun n => return (← inner n).1
    match n.tag, n with
    | _, .again id tag .. =>
      return (if begun.ties.contains id then .again id (shapeOf tag) else .null, .leaf)
    | .sequence, _ => return (.list (← buildItems value n), .leaf)
    | .mapping, _ => return ofEntries (← outlineMapping (fun _ => now) (fun _ => inner) n)
    | .set, _ => return (.orderedSet (← outlineSet now inner n), .leaf)
    | .orderedMapping, _ =>
      checkCollection n
      let items ← singleItems .orderedMapping n
      return ofEntries (← outlineOrdered inner n.start [] items)
    | .pairs, _ =>
      let items ← singleItems .pairs n
      return (.list ((← buildPairs value n.start items).map pairValue), .leaf)
    | .other _, .sequence .. | .merge, .sequence .. | .value, .sequence .. =>
      return (.list (← hidden n (buildItems value n)), .leaf)
    | .other _, .mapping .. | .merge, .mapping .. | .value, .mapping .. =>
      return ofEntries (← hidden n (outlineMapping (fun _ => now) (fun _ => inner) n))
    | _, _ => return (← outlineScalar m n, .leaf)

/-- The value and outline of the mapping at the root, which comes again as itself. -/
def outlineRoot (m : Manner) (fuel : Nat) (root : Node) : Except Error (Value × Outline) := do
  let begun := Begun.mk (tieOf? root).toList
  let value := fun built => outline m fuel (begun built)
  let key := fun built => (begun built).now (value built)
  return ofEntries (← outlineMapping key value root)

/-! ## Documents -/

/-- The node has its value on a level of its own. -/
def isOutlined : Node → Bool
  | .again .. => false
  | .scalar tag .. => tag == .sequence || tag == .mapping || tag == .pairs
  | n => match n.tag with
    | .null | .bool | .int | .float | .binary | .timestamp | .text => false
    | _ => true

/-- The value of a scalar; a collection is an empty one of its kind for now. -/
def outerOutline (m : Manner) (n : Node) : Except Error (Value × Outline) := do
  match n.tag, n with
  | .sequence, _ | .pairs, _ | .other _, .sequence .. | .merge, .sequence .. | .value, .sequence .. =>
    return (.list [], .leaf)
  | .mapping, _ | .other _, .mapping .. | .merge, .mapping .. | .value, .mapping .. =>
    return (.map [], .leaf)
  | .set, _ =>
    checkCollection n
    return (.orderedSet [], .leaf)
  | .orderedMapping, _ =>
    checkCollection n
    return (.map [], .leaf)
  | _, .again .. => return (.null, .leaf)
  | _, _ => return (← outlineScalar m n, .leaf)

/-- The nodes on the level below a collection that is no part of a mapping. The values on
the collection's own level are checked, and mappings in full. -/
def checkOutlineLevel (m : Manner) (fuel : Nat) (begun : List Nat) (n : Node) :
    Except Error (List Node) := do
  let whole := outline m fuel ⟨begun, []⟩
  let outer := outerOutline m
  let value := fun n => return (← outer n).1
  match n.tag, n with
  | .mapping, _ =>
    let _ ← whole n
    return []
  | .sequence, _ =>
    let _ ← buildItems value n
    return n.children
  | .set, _ =>
    let _ ← outlineSet whole outer n
    return n.values
  | .orderedMapping, _ =>
    let items ← singleItems .orderedMapping n
    let _ ← outlineOrdered outer n.start [] items
    return items.flatMap Node.values
  | .pairs, _ =>
    let items ← singleItems .pairs n
    let _ ← buildPairs value n.start items
    return items.flatMap Node.children
  | _, .sequence .. =>
    let _ ← hidden n (buildItems value n)
    return n.children
  | _, .mapping .. =>
    let _ ← hidden n (outlineMapping (fun _ => whole) (fun _ => outer) n)
    return n.values
  | _, _ => return []

/-- Every level of a document is sound, from the given one down. The collections of a level
are begun before what they hold is read; their ties are returned with those above. -/
def checkOutlineLevels (m : Manner) (depth : Nat) :
    Nat → List Nat → List Node → Except Error (List Nat)
  | 0, begun, _ => .ok begun
  | fuel + 1, begun, nodes =>
    if nodes.isEmpty then .ok begun
    else do
      let begun := begun ++ nodes.filterMap tieOf?
      let below ← nodes.mapM (checkOutlineLevel m depth begun)
      checkOutlineLevels m depth fuel begun (below.flatten.filter isOutlined)

/-- The value and outline of a document; an absent document is null. -/
def loadOutlined (text : String) : Except Error (Value × Outline) := do
  let document := text.toList
  match ← readRoot true document with
  | none => return (.null, .leaf)
  | some (root, edition) =>
    let depth := document.length + 8
    let m := Manner.mk edition true
    let _ ← outerOutline m root
    if root.tag == .mapping then outlineRoot m depth root
    else
      let begun ← checkOutlineLevels m depth depth [] ([root].filter isOutlined)
      outline m depth ⟨begun, []⟩ root

end ContainerLint.Yaml
