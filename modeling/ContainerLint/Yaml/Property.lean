/-
The properties of nodes, which are anchors, references to them, and tags, and the
directives at the head of a document.
-/
import ContainerLint.Yaml.Block
import ContainerLint.Yaml.Token

namespace ContainerLint.Yaml

/-! ## Anchors and references -/

/-- A character that the name of an anchor may hold: any that is visible, but the
indicators of flow collections. -/
def isAnchorChar (c : Char) : Bool :=
  let n := c.toNat
  !([',', '[', ']', '{', '}'].contains c) &&
    ((0x21 ≤ n && n ≤ 0x7E) || (0xA0 ≤ n && n ≤ 0xFFFD && n != 0xFEFF) || 0x10000 ≤ n)

/-- What may follow the name of an anchor. -/
def endsAnchor : Option Char → Bool
  | none => true
  | some c => c == ' ' || c == '\t' || isBreak c ||
      ['?', ':', ',', '[', ']', '{', '}', '%', '@', Char.ofNat 96].contains c

/-- The name after an anchor's or a reference's indicator. -/
def scanName (activity : Activity) (c : Cursor) : Except Error (String × Cursor) :=
  let start := c.mark
  let c := c.next
  let name := c.run isAnchorChar
  let after := c.skip name.length
  if name.isEmpty || !endsAnchor after.peek then
    .error (.marked (some (activity, start)) (.expected .nameCharacter after.peek) after.mark)
  else .ok (String.ofList name, after)

/-! ## Tags -/

/-- A character of the suffix of a tag. -/
def isSuffixChar (edition : Edition) (c : Char) : Bool :=
  isBasic c || "-;/?:@&=+$,_.!~*'()[]%".toList.contains c || (edition == .current && c == '#')

/-- The bytes that percent signs write, two digits each. -/
def percentBytes (activity : Activity) (start : Mark) :
    Nat → Cursor → Except Error (List UInt8 × Cursor)
  | 0, c => .ok ([], c)
  | fuel + 1, c =>
    if c.isAt '%' then
      match badHex c.next 2 with
      | some found =>
        .error (.marked (some (activity, start)) (.expected .addressEscape found) c.next.mark)
      | none => do
        let (rest, after) ← percentBytes activity start fuel (c.skip 3)
        return (UInt8.ofNat (hexNumber (c.next.rest.take 2)) :: rest, after)
    else .ok ([], c)

/-- The suffix of a tag as it is written. The bytes that its percent signs write must be
text, though they are not taken as such. -/
def scanSuffix (activity escape : Activity) (edition : Edition) (start : Mark) :
    Nat → List Char → Cursor → Except Error (List Char × Cursor)
  | 0, text, c => .ok (text, c)
  | fuel + 1, text, c =>
    match c.peek with
    | some '%' => do
      let (bytes, after) ← percentBytes escape start c.rest.length c
      match Text.decodeUtf8 bytes with
      | .error e => throw (.marked (some (escape, start)) (.badBytes e) c.mark)
      | .ok _ =>
        let written := c.rest.take (3 * bytes.length)
        scanSuffix activity escape edition start fuel (text ++ written) after
    | some ch =>
      if isSuffixChar edition ch then
        scanSuffix activity escape edition start fuel (text ++ [ch]) c.next
      else if text.isEmpty then
        .error (.marked (some (activity, start)) (.expected .address (some ch)) c.mark)
      else .ok (text, c)
    | none =>
      if text.isEmpty then
        .error (.marked (some (activity, start)) (.expected .address none) c.mark)
      else .ok (text, c)

/-- The handle of a tag: an exclamation mark, or a word between two. -/
def scanHandle (activity : Activity) (start : Mark) (c : Cursor) :
    Except Error (String × Cursor) :=
  if !c.isAt '!' then
    .error (.marked (some (activity, start)) (.expected .exclamation c.peek) c.mark)
  else if c.next.isAt ' ' then .ok ("!", c.next)
  else
    let word := c.next.run fun ch => isBasic ch || ch == '-' || ch == '_'
    let after := c.skip (word.length + 1)
    if after.isAt '!' then .ok (String.ofList ('!' :: word ++ ['!']), after.next)
    else .error (.marked (some (activity, start)) (.expected .exclamation after.peek) after.mark)

/-- A tag at a cursor: verbatim between angle brackets, one or two bare exclamation
marks, or a handle and a suffix. -/
def scanTag (edition : Edition) (c : Cursor) : Except Error (WrittenTag × Cursor) := do
  let start := c.mark
  let double := c.peekAt 1 == some '!'
  let c := if double then c.next else c
  let second := c.peekAt 1
  let (tag, c) ←
    if second == some '<' then do
      let c := c.skip 2
      let (suffix, c) ← scanSuffix .tagSuffix .tagHandle edition start (c.rest.length + 1) [] c
      if c.isAt '>' then pure (WrittenTag.mk none (String.ofList suffix), c.next)
      else throw (.marked (some (.verbatimTag, start)) (.expected .closingAngle c.peek) c.mark)
    else if endsWord second then pure (WrittenTag.mk none (if double then "!!" else "!"), c.next)
    else do
      let word := c.next.run fun ch => !endsItem (some ch)
      let (handle, c) ←
        if word.contains '!' then scanHandle .tagHandle start c
        else pure (if double then "!!" else "!", c.next)
      let (suffix, c) ← scanSuffix .tagSuffix .tagHandle edition start (c.rest.length + 1) [] c
      pure (WrittenTag.mk (some handle) (String.ofList suffix), c)
  if endsItem c.peek then return (tag, c)
  else throw (.marked (some (.tag, start)) (.expected .space c.peek) c.mark)

/-! ## Directives -/

/-- A problem in a directive. -/
def directiveError {α : Type} (start : Mark) (what : Expectation) (c : Cursor) : Except Error α :=
  .error (.marked (some (.directive, start)) (.expected what c.peek) c.mark)

/-- The name of a directive. -/
def scanDirectiveName (start : Mark) (c : Cursor) : Except Error (List Char × Cursor) :=
  let name := c.run fun ch => isBasic ch || ['-', '_', ':', '.'].contains ch
  let after := c.skip name.length
  if name.isEmpty || !endsItem after.peek then directiveError start .nameCharacter after
  else .ok (name, after)

/-- A number of a version. -/
def scanVersionNumber (start : Mark) (c : Cursor) : Except Error (Nat × Cursor) :=
  let digits := c.run Char.isDigit
  if digits.isEmpty then directiveError start .digit c
  else match Text.readDecimal digits with
    | .ok n => .ok (n, c.skip digits.length)
    | .error e => .error (.fault (.numeral e))

/-- The value of a directive that gives the version. -/
def scanVersion (start : Mark) (c : Cursor) : Except Error (Directive × Cursor) := do
  let (major, c) ← scanVersionNumber start c.skipSpaces
  if !c.isAt '.' then directiveError start .digitOrPoint c
  else do
    let (minor, c) ← scanVersionNumber start c.next
    if endsItem c.peek then return (.version major minor, c)
    else directiveError start .digitOrPoint c

/-- The value of a directive that gives a tag handle its meaning. -/
def scanTagDirective (edition : Edition) (start : Mark) (c : Cursor) :
    Except Error (Directive × Cursor) := do
  let (handle, c) ← scanHandle .directiveHandle start c.skipSpaces
  if !c.isAt ' ' then directiveError start .space c
  else do
    let c := c.skipSpaces
    let (expansion, c) ←
      scanSuffix .directivePrefix .directiveHandle edition start (c.rest.length + 1) [] c
    if endsItem c.peek then return (.tag handle (String.ofList expansion), c)
    else directiveError start .space c

/-- A directive at a cursor, its place of stopping, and the cursor on the next line. -/
def scanDirective (edition : Edition) (c : Cursor) :
    Except Error ((Directive × Mark) × Cursor) := do
  let start := c.mark
  let (name, c) ← scanDirectiveName start c.next
  let ((directive, stop), c) ←
    if name == "YAML".toList then do
      let (d, c) ← scanVersion start c
      pure ((d, c.mark), c)
    else if name == "TAG".toList then do
      let (d, c) ← scanTagDirective edition start c
      pure ((d, c.mark), c)
    else
      pure ((Directive.other (String.ofList name), c.mark),
        c.skipRun fun ch => !endsLine (some ch))
  let (_, c) ← scanHeader .directive start c
  return ((directive, stop), c)

end ContainerLint.Yaml
