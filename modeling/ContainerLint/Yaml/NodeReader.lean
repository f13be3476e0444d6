/-
From tokens to nodes. The grammar is followed by recursive descent. Each look at the
next token may make the stream read on, which decides how far it has read when a
fault is found, so there are as many looks as the grammar has questions. Where
comments are kept, remarks on tokens that make no node are passed on to the token
after them. Depth is bounded by fuel, of which a document never needs more than it has
tokens.
-/
import ContainerLint.Yaml.Node
import ContainerLint.Yaml.TokenStream

namespace ContainerLint.Yaml

/-- The state of reading nodes: the tokens, the meanings of tag handles, and the anchors
met so far, the last first. While a collection is being read, its anchor stands for the
collection inside of itself. -/
structure NodeReader where
  tokens : TokenStream
  handles : List (String × String)
  anchors : List (String × Node)
  /-- How many collections have been begun. -/
  begun : Nat
  deriving Repr

/-- The properties written before a node. -/
structure Properties where
  anchor : Option String
  tag : Option WrittenTag
  /-- Where the properties start. -/
  start : Option Mark
  deriving Repr, DecidableEq

namespace NodeReader

/-- The next token, which stays. -/
def look (c : NodeReader) : Except Error (Token × NodeReader) := do
  let (t, s) ← c.tokens.peek
  return (t, { c with tokens := s })

/-- The state after a number of looks at the next token. -/
def lookOn : Nat → NodeReader → Except Error NodeReader
  | 0, c => .ok c
  | n + 1, c => do lookOn n (← c.look).2

/-- The next token, which is passed. -/
def take (c : NodeReader) : Except Error (Token × NodeReader) := do
  let (t, s) ← c.tokens.take
  return (t, { c with tokens := s })

/-- The edition in force. -/
def edition (c : NodeReader) : Edition :=
  c.tokens.edition

/-! ## Remarks -/

/-- The state with other remarks on the next token. -/
def mapRemarks (c : NodeReader) (f : Option Remarks → Option Remarks) : NodeReader :=
  { c with tokens := c.tokens.mapRemarks f }

/-- What becomes of remarks that have no room on the next token. -/
inductive Crowding where
  | refused
  | dropped
  deriving Repr, DecidableEq

/-- A token nothing is passed on to. -/
def isFinal : TokenKind → Bool
  | .streamEnd | .documentStart => true
  | _ => false

/-- The token that was taken and the state, its remarks passed on to the next one if
comments are kept. They are kept twice after a colon that may have no value. -/
def passOn (c : NodeReader) (t : Token) (twice : Bool) (crowding : Crowding) :
    Except Error (Token × NodeReader) := do
  if !c.tokens.keepsComments then return (t, c)
  let (next, c) ← c.look
  match t.remarks with
  | none => return (t, c)
  | some moved =>
    if isFinal next.kind then return (t, c)
    let bare := { t with remarks := none }
    match next.remarks with
    | none =>
      return (bare, c.mapRemarks fun _ => some { moved with twice := moved.twice || twice })
    | some kept =>
      if !moved.collides kept then return (bare, c.mapRemarks fun _ => some (moved.take kept))
      else match crowding with
        | .refused => throw (.fault (.collision moved kept))
        | .dropped => return (bare, c)

/-- The next token, which is passed, and its remarks passed on. -/
def takeOver (c : NodeReader) : Except Error (Token × NodeReader) := do
  let (t, c) ← c.take
  c.passOn t false .refused

/-! ## Properties -/

/-- The handles that always have a meaning. -/
def defaultHandles : List (String × String) :=
  [("!", "!"), ("!!", Tag.coreSpace)]

/-- Properties whose tag has a handle with a meaning. -/
def checkHandle (c : NodeReader) (p : Properties) (place : Mark) : Except Error (Properties × NodeReader) :=
  match p.tag.bind (·.handle) with
  | some handle =>
    if (c.handles.lookup handle).isSome then .ok (p, c)
    else .error (.marked (some (.node, p.start.getD place)) (.undefinedHandle handle) place)
  | none => .ok (p, c)

/-- The properties before a node: an anchor, a tag, or both in either order. -/
def properties (c : NodeReader) : Except Error (Properties × NodeReader) := do
  let (t, c) ← c.look
  match t.kind with
  | .anchor name =>
    let (t, c) ← c.takeOver
    let (u, c) ← c.look
    match u.kind with
    | .tag written =>
      let (u, c) ← c.take
      c.checkHandle ⟨some name, some written, some t.start⟩ u.start
    | _ => return (⟨some name, none, some t.start⟩, c)
  | _ =>
    let (t, c) ← c.look
    match t.kind with
    | .tag written =>
      let (t, c) ← c.take
      let (t, c) ← c.passOn t false .dropped
      let (u, c) ← c.look
      match u.kind with
      | .anchor name =>
        let (u, c) ← c.take
        c.checkHandle ⟨some name, some written, some u.start⟩ u.start
      | _ => c.checkHandle ⟨none, some written, some t.start⟩ t.start
    | _ => return (⟨none, none, none⟩, c)

/-- A tag with percent signs and two digits after each replaced by the characters of
those numbers. -/
def unescaped : List Char → List Char
  | '%' :: a :: b :: cs => Char.ofNat (hexNumber [a, b]) :: unescaped cs
  | c :: cs => c :: unescaped cs
  | [] => []

/-- The full tag of a written one; a bare exclamation mark says nothing. Where comments
are kept, so is the tag of texts if it is written with a handle. -/
def fullTag (c : NodeReader) (written : WrittenTag) : Option Tag :=
  let suffix := String.ofList (unescaped written.suffix.toList)
  match written.handle with
  | none => if suffix == "!" then none else some (Tag.ofName suffix)
  | some handle =>
    let name := (c.handles.lookup handle).getD "" ++ suffix
    let tag := Tag.ofName name
    some (if tag == .text && c.tokens.keepsComments then .other name else tag)

/-- The state with a node under an anchor, if there is one. -/
def setAnchor (c : NodeReader) (anchor : Option String) (node : Node) : NodeReader :=
  match anchor with
  | some name => { c with anchors := (name, node) :: c.anchors }
  | none => c

/-- The node of a reference. -/
def resolve (c : NodeReader) (name : String) (place : Mark) : Except Error Node :=
  match c.anchors.lookup name with
  | none => .error (.marked none (.undefinedReference name) place)
  | some node => .ok node

/-- A scalar with its properties. -/
def scalarNode (c : NodeReader) (p : Properties) (text : String) (style : ScalarStyle)
    (start : Mark) : Node :=
  let tag := match p.tag.bind c.fullTag with
    | some tag => tag
    | none => if style == .plain || p.tag.isSome then Tag.ofPlain c.edition text else .text
  .scalar tag text start style p.anchor.isSome

/-- The number and tag of a collection that begins, and the state inside of it. -/
def begin (c : NodeReader) (p : Properties) (isMapping : Bool) (start : Mark) :
    (Nat × Tag) × NodeReader :=
  let id := c.begun
  let tag := (p.tag.bind c.fullTag).getD (if isMapping then .mapping else .sequence)
  ((id, tag), { c with begun := id + 1 }.setAnchor p.anchor (.again id tag isMapping start))

/-- The tie of a collection with a number, if some collection comes again inside it. -/
def tieOf (id : Nat) (recurs : Bool) : Option Nat :=
  if recurs then some id else none

/-- A collection that has been read, and the state after it, where its anchor stands for
the whole. -/
def finish (c : NodeReader) (p : Properties) (id : Nat) (n : Node) : Node × NodeReader :=
  if p.anchor.isSome then
    (n, { c with anchors := c.anchors.map fun (name, m) => (name, Node.fill id n m) })
  else (n, c)

/-- A sequence that has been read. -/
def finishSequence (c : NodeReader) (p : Properties) (begun : Nat × Tag) (items : List Node)
    (start : Mark) : Node × NodeReader :=
  c.finish p begun.1 (.sequence begun.2 items start (tieOf begun.1 (Node.recursAny items)))

/-- A mapping that has been read. -/
def finishMapping (c : NodeReader) (p : Properties) (begun : Nat × Tag)
    (entries : List (Node × Node)) (start : Mark) : Node × NodeReader :=
  c.finish p begun.1 (.mapping begun.2 entries start (tieOf begun.1 (Node.recursEntries entries)))

/-! ## Nodes -/

/-- The token ends an entry of a block mapping. -/
def endsBlockPart : TokenKind → Bool
  | .key | .value | .blockEnd => true
  | _ => false

/-- How many questions the grammar has before it knows a node by its first token, after
that of a sequence that is not indented. -/
def questions (block : Bool) : TokenKind → Nat
  | .scalar .. => 1
  | .flowSequenceStart => 3
  | .flowMappingStart => 4
  | .blockSequenceStart => if block then 6 else 3
  | .blockMappingStart => if block then 7 else 3
  | _ => if block then 5 else 3

mutual

/-- A node: a reference, or properties and content. `block` allows block collections,
and `loose` a block sequence that is not indented. -/
def node (block loose : Bool) : Nat → NodeReader → Except Error (Node × NodeReader)
  | 0, c => c.tokens.fail .tooDeep
  | fuel + 1, c => do
    let (t, c) ← c.look
    match t.kind with
    | .reference name =>
      let (t, c) ← c.take
      return (← c.resolve name t.start, c)
    | _ =>
      let (p, c) ← c.properties
      match p.start with
      | some start => content block loose p start fuel c
      | none =>
        let (t, c) ← c.look
        content block loose p t.start fuel c

/-- The content of a node after its properties. -/
def content (block loose : Bool) (p : Properties) (start : Mark) :
    Nat → NodeReader → Except Error (Node × NodeReader)
  | 0, c => c.tokens.fail .tooDeep
  | fuel + 1, c => do
    let (t, c) ← c.look
    if loose && t.kind == .blockEntry then
      let c ← c.lookOn 2
      let c := c.mapRemarks fun r => r.map ({ · with after := none })
      let (begun, c) := c.begin p false start
      let (items, c) ← looseItems [] fuel c
      return c.finishSequence p begun items start
    else
      let c ← c.lookOn (questions block t.kind - (if loose then 0 else 1))
      match t.kind, block with
      | .scalar text style, _ =>
        let (_, c) ← c.take
        let n := c.scalarNode p text style start
        return (n, c.setAnchor p.anchor n)
      | .flowSequenceStart, _ =>
        let (begun, c) := c.begin p false start
        let (t, c) ← c.take
        let (items, c) ← flowItems t.start true [] fuel c
        return c.finishSequence p begun items start
      | .flowMappingStart, _ =>
        let (begun, c) := c.begin p true start
        let (t, c) ← c.take
        let (entries, c) ← flowEntries t.start true [] fuel c
        return c.finishMapping p begun entries start
      | .blockSequenceStart, true =>
        let (begun, c) := c.begin p false start
        let (t, c) ← c.take
        let (items, c) ← blockItems t.start [] fuel c
        return c.finishSequence p begun items start
      | .blockMappingStart, true =>
        let (begun, c) := c.begin p true start
        let (t, c) ← c.take
        let (entries, c) ← blockEntries t.start [] fuel c
        return c.finishMapping p begun entries start
      | _, _ => noContent block p start c

/-- Properties alone make an empty scalar; without any there is no node. -/
def noContent (block : Bool) (p : Properties) (start : Mark) (c : NodeReader) :
    Except Error (Node × NodeReader) := do
  if p.anchor.isSome || p.tag.isSome then
    let n := c.scalarNode p "" .plain start
    return (n, c.setAnchor p.anchor n)
  else
    let (t, _) ← c.look
    let activity := if block then Activity.blockNode else .flowNode
    throw (.marked (some (activity, start)) (.expectedContent t.kind.name) t.start)

/-- The items of a block sequence. -/
def blockItems (start : Mark) (items : List Node) :
    Nat → NodeReader → Except Error (List Node × NodeReader)
  | 0, c => c.tokens.fail .tooDeep
  | fuel + 1, c => do
    let (t, c) ← c.look
    if t.kind == .blockEntry then
      let (dash, c) ← c.takeOver
      let (t, c) ← c.look
      match t.kind with
      | .blockEntry | .blockEnd => blockItems start (items ++ [Node.empty dash.stop]) fuel c
      | _ =>
        let (n, c) ← node true false fuel c
        blockItems start (items ++ [n]) fuel c
    else
      let (t, c) ← c.look
      if t.kind == .blockEnd then
        let (_, c) ← c.take
        return (items, c)
      else
        let (t, _) ← c.look
        throw (.marked (some (.blockSequence, start)) (.expectedBlockEnd t.kind.name) t.start)

/-- The items of a block sequence that is not indented, which ends where no further
item stands. The remarks before the next token belong to the sequence. -/
def looseItems (items : List Node) : Nat → NodeReader → Except Error (List Node × NodeReader)
  | 0, c => c.tokens.fail .tooDeep
  | fuel + 1, c => do
    let (t, c) ← c.look
    if t.kind == .blockEntry then
      let (dash, c) ← c.takeOver
      let (t, c) ← c.look
      if t.kind == .blockEntry || endsBlockPart t.kind then
        looseItems (items ++ [Node.empty dash.stop]) fuel c
      else
        let (n, c) ← node true false fuel c
        looseItems (items ++ [n]) fuel c
    else
      let (_, c) ← c.look
      return (items, c.mapRemarks fun r => r.map fun r =>
        if r.hasBefore then { r with before := none } else r)

/-- The entries of a block mapping. -/
def blockEntries (start : Mark) (entries : List (Node × Node)) :
    Nat → NodeReader → Except Error (List (Node × Node) × NodeReader)
  | 0, c => c.tokens.fail .tooDeep
  | fuel + 1, c => do
    let (t, c) ← c.look
    if t.kind == .key then
      let (mark, c) ← c.takeOver
      let (t, c) ← c.look
      let (k, c) ← if endsBlockPart t.kind then pure (Node.empty mark.stop, c)
        else node true true fuel c
      let (v, c) ← blockValue fuel c
      blockEntries start (entries ++ [(k, v)]) fuel c
    else
      let c ← c.lookOn (if c.edition == .current then 1 else 0)
      if t.kind == .value && c.edition == .current then
        let (t, c) ← c.look
        let (v, c) ← blockValue fuel c
        blockEntries start (entries ++ [(Node.empty t.start, v)]) fuel c
      else
        let (t, c) ← c.look
        if t.kind == .blockEnd then
          let (_, c) ← c.takeOver
          return (entries, c)
        else
          let (t, _) ← c.look
          throw (.marked (some (.blockMapping, start)) (.expectedBlockEnd t.kind.name) t.start)

/-- The value of an entry of a block mapping, empty if it is not written. An empty value
stands at its colon if a remark stays there, else at the end of the next token. -/
def blockValue : Nat → NodeReader → Except Error (Node × NodeReader)
  | 0, c => c.tokens.fail .tooDeep
  | fuel + 1, c => do
    let (t, c) ← c.look
    if t.kind == .value then
      let (colon, c) ← c.take
      let (t, c) ← c.look
      let (colon, c) ←
        if t.kind == .value then c.passOn colon false .refused
        else do
          let (t, c) ← c.look
          if t.kind == .key then pure (colon, c) else c.passOn colon true .refused
      let (t, c) ← c.look
      if !endsBlockPart t.kind then node true true fuel c
      else if colon.remarks.isSome then return (Node.empty colon.stop, c)
      else
        let (t, c) ← c.look
        return (Node.empty t.stop,
          c.mapRemarks fun r => r.map fun r => { before := r.before })
    else
      let (t, c) ← c.look
      return (Node.empty t.start, c)

/-- The items of a flow sequence. An item with a key is a mapping of one entry. -/
def flowItems (start : Mark) (first : Bool) (items : List Node) :
    Nat → NodeReader → Except Error (List Node × NodeReader)
  | 0, c => c.tokens.fail .tooDeep
  | fuel + 1, c => do
    let (t, c) ← c.look
    if t.kind == .flowSequenceEnd then
      let (_, c) ← c.take
      return (items, c)
    else if first then flowItem start items fuel c
    else
      let (t, c) ← c.look
      if t.kind == .flowEntry then
        let (_, c) ← c.take
        flowItem start items fuel c
      else
        let (t, _) ← c.look
        throw (.marked (some (.flowSequence, start)) (.expectedInFlow "]" t.kind.name) t.start)

/-- An item of a flow sequence, and those after it. -/
def flowItem (start : Mark) (items : List Node) :
    Nat → NodeReader → Except Error (List Node × NodeReader)
  | 0, c => c.tokens.fail .tooDeep
  | fuel + 1, c => do
    let (t, c) ← c.look
    if t.kind == .key then
      let (t, c) ← c.look
      let ((id, _), c) := c.begin ⟨none, none, none⟩ true t.start
      let (mark, c) ← c.take
      let (u, c) ← c.look
      let (k, c) ← match u.kind with
        | .value | .flowEntry | .flowSequenceEnd => pure (Node.empty mark.stop, c)
        | _ => node false false fuel c
      let (v, c) ← flowValue .flowSequenceEnd fuel c
      let (_, c) ← c.look
      let tie := tieOf id (k.recurs || v.recurs)
      flowItems start false (items ++ [.mapping .mapping [(k, v)] t.start tie]) fuel c
    else
      let (t, c) ← c.look
      if t.kind == .flowSequenceEnd then
        let (_, c) ← c.take
        return (items, c)
      else
        let (n, c) ← node false false fuel c
        flowItems start false (items ++ [n]) fuel c

/-- The entries of a flow mapping. -/
def flowEntries (start : Mark) (first : Bool) (entries : List (Node × Node)) :
    Nat → NodeReader → Except Error (List (Node × Node) × NodeReader)
  | 0, c => c.tokens.fail .tooDeep
  | fuel + 1, c => do
    let (t, c) ← c.look
    if t.kind == .flowMappingEnd then
      let (_, c) ← c.take
      return (entries, c)
    else if first then flowPair start entries fuel c
    else
      let (t, c) ← c.look
      if t.kind == .flowEntry then
        let (_, c) ← c.take
        flowPair start entries fuel c
      else
        let (t, _) ← c.look
        throw (.marked (some (.flowMapping, start)) (.expectedInFlow "\x7d" t.kind.name) t.start)

/-- An entry of a flow mapping, and those after it. A word without a colon is a key
without a value. -/
def flowPair (start : Mark) (entries : List (Node × Node)) :
    Nat → NodeReader → Except Error (List (Node × Node) × NodeReader)
  | 0, c => c.tokens.fail .tooDeep
  | fuel + 1, c => do
    let (t, c) ← c.look
    if t.kind == .key then
      let (mark, c) ← c.take
      let (u, c) ← c.look
      let (k, c) ← match u.kind with
        | .value | .flowEntry | .flowMappingEnd => pure (Node.empty mark.stop, c)
        | _ => node false false fuel c
      let (v, c) ← flowValue .flowMappingEnd fuel c
      flowEntries start false (entries ++ [(k, v)]) fuel c
    else
      let c ← c.lookOn (if c.edition == .current then 1 else 0)
      if t.kind == .value && c.edition == .current then
        let (t, c) ← c.look
        let (v, c) ← flowValue .flowMappingEnd fuel c
        flowEntries start false (entries ++ [(Node.empty t.stop, v)]) fuel c
      else
        let (t, c) ← c.look
        if t.kind == .flowMappingEnd then
          let (_, c) ← c.take
          return (entries, c)
        else
          let (k, c) ← node false false fuel c
          let (u, c) ← c.look
          flowEntries start false (entries ++ [(k, Node.empty u.start)]) fuel c

/-- The value of an entry in a flow collection that closes with the given token, empty
if it is not written. -/
def flowValue (closing : TokenKind) : Nat → NodeReader → Except Error (Node × NodeReader)
  | 0, c => c.tokens.fail .tooDeep
  | fuel + 1, c => do
    let (t, c) ← c.look
    if t.kind == .value then
      let (colon, c) ← c.take
      let (t, c) ← c.look
      if t.kind == .flowEntry || t.kind == closing then return (Node.empty colon.stop, c)
      else node false false fuel c
    else
      let (t, c) ← c.look
      return (Node.empty t.start, c)

end

/-! ## Documents -/

/-- The state past markers of the ends of documents. -/
def skipEnds : Nat → NodeReader → Except Error NodeReader
  | 0, c => .ok c
  | fuel + 1, c => do
    let (t, c) ← c.look
    match t.kind with
    | .documentEnd => skipEnds fuel (← c.take).2
    | _ => return c

/-- The directives at the head of a document, `version` being the one given so far. The
editions that exist are two. -/
def directives (version : Option (Nat × Nat)) : Nat → NodeReader → Except Error NodeReader
  | 0, c => .ok c
  | fuel + 1, c => do
    let (t, c) ← c.look
    match t.kind with
    | .directive (.version major minor) =>
      let (t, c) ← c.take
      if version.isSome then throw (.marked none .duplicateVersion t.start)
      if major != 1 then throw (.marked none .incompatibleVersion t.start)
      directives (some (major, minor)) fuel c
    | .directive (.tag handle expansion) =>
      let (t, c) ← c.take
      if (c.handles.lookup handle).isSome then
        throw (.marked none (.duplicateHandle handle) t.start)
      directives version fuel { c with handles := c.handles ++ [(handle, expansion)] }
    | .directive (.other _) =>
      let (_, c) ← c.take
      directives version fuel c
    | _ =>
      match version with
      | some (major, minor) =>
        if minor == 1 || minor == 2 then return c else throw (.fault (.edition major minor))
      | none => return c

/-- The most steps that reading can take: some for each token that waits and for each
character that is left. -/
def fuel (c : NodeReader) : Nat :=
  6 * (c.tokens.queue.length + c.tokens.cursor.rest.length) + 64

/-- The marker of a document's start, after its directives; nothing at the end of the
stream. -/
def explicitStart (c : NodeReader) : Except Error (Option Token × NodeReader) := do
  let c ← skipEnds c.fuel c
  let (t, c) ← c.look
  if t.kind == .streamEnd then
    let (_, c) ← c.take
    return (none, c)
  else
    let c ← directives none c.fuel { c with handles := [] }
    let (t, c) ← c.look
    if t.kind == .documentStart then
      let (t, c) ← c.take
      return (some t, { c with handles := c.handles ++ defaultHandles })
    else
      let c ← c.lookOn 1
      let (t, _) ← c.look
      throw (.marked none (.expectedDocumentStart t.kind.name) t.start)

/-- The token starts no document of its own. -/
def bounds : TokenKind → Bool
  | .directive _ | .documentStart | .streamEnd => true
  | _ => false

/-- The root of the first document, if there is a document. -/
def firstRoot (c : NodeReader) : Except Error (Option Node × NodeReader) := do
  let (_, c) ← c.takeOver
  let (t, c) ← c.look
  if bounds t.kind then
    let (marker, c) ← c.explicitStart
    if marker.isNone then return (none, c)
    let (t, c) ← c.look
    if bounds t.kind || t.kind == .documentEnd then
      let (t, c) ← c.look
      return (some (Node.empty t.start), c)
    else
      let (n, c) ← node true false c.fuel c
      return (some n, c)
  else
    let (_, c) ← c.look
    let (n, c) ← node true false c.fuel c
    return (some n, c)

/-- The marker of the end of a document, if it is written; nothing may follow it on
its line. -/
def documentEnd (c : NodeReader) : Except Error (Bool × NodeReader) := do
  let c ← c.lookOn 1
  let (t, c) ← c.look
  if t.kind == .documentEnd then
    let (t, c) ← c.take
    let (u, c) ← c.look
    if u.kind != .streamEnd && t.stop.line == u.start.line then
      let c ← c.lookOn 1
      let (u, _) ← c.look
      throw (.marked none (.contentAfterDocumentEnd u.kind.name) u.start)
    return (true, c)
  else return (false, c)

/-- Where a further document starts, if there is one. -/
def nextDocument (c : NodeReader) (ended : Bool) : Except Error (Option Mark) := do
  if ended && c.edition == .current then
    let (t, c) ← c.look
    if bounds t.kind then return (← c.explicitStart).1.map (·.start)
    else
      let (t, _) ← c.look
      return some t.start
  else return (← c.explicitStart).1.map (·.start)

/-- The root of the only document, and the edition it is written in. -/
def onlyRoot (c : NodeReader) : Except Error (Option (Node × Edition)) := do
  let (root, c) ← c.firstRoot
  match root with
  | none => return none
  | some n =>
    let (ended, c) ← c.documentEnd
    match ← c.nextDocument ended with
    | none => return some (n, c.edition)
    | some place => throw (.marked (some (.singleDocument, n.start)) .anotherDocument place)

end NodeReader

/-! ## From text -/

/-- A character that a document may hold. -/
def isAcceptable (c : Char) : Bool :=
  let n := c.toNat
  n == 9 || n == 10 || n == 13 || (0x20 ≤ n && n ≤ 0x7E) || n == 0x85 ||
    (0xA0 ≤ n && n ≤ 0xFFFD) || 0x10000 ≤ n

/-- The root of the only document of a text, and the edition it is written in. The
flag says whether comments are kept. -/
def readRoot (keepsComments : Bool) (text : List Char) :
    Except Error (Option (Node × Edition)) :=
  match text.findIdx? (!isAcceptable ·) with
  | some index => .error (.unreadable (text.getD index ' ') index)
  | none => NodeReader.onlyRoot ⟨TokenStream.start keepsComments text, NodeReader.defaultHandles, [], 0⟩

end ContainerLint.Yaml
