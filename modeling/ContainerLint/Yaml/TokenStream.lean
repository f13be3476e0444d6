/-
The tokens of a document, as a stream, a few at a time. A word is only known
to be a key when the colon after it is met, so the stream keeps the places where a
key could have started; the token that says so is then put before tokens that are
already waiting. It reads ahead exactly as far as that takes, and a document is
refused at the first place that is wrong in this order of reading. If comments are
kept, each goes as a remark to the token it stands next to.
-/
import ContainerLint.Yaml.Property

namespace ContainerLint.Yaml

/-- The kind of a flow collection. -/
inductive Enclosure where
  | sequence
  | mapping
  deriving Repr, DecidableEq

/-- A place where a key may have started: the number of its token, whether it must
turn out to be a key, and the depth of flow collections around it. -/
structure Candidate where
  depth : Nat
  token : Nat
  required : Bool
  mark : Mark
  deriving Repr, DecidableEq

/-- A stream of tokens: what is read of a document, and what is left. -/
structure TokenStream where
  cursor : Cursor
  /-- Comments become remarks on tokens. -/
  keepsComments : Bool
  edition : Edition
  /-- The end of the document has been met. -/
  done : Bool
  /-- The flow collections around the cursor, innermost first. -/
  enclosures : List Enclosure
  /-- The tokens that wait to be taken. -/
  queue : List Token
  /-- How many tokens have been taken. -/
  taken : Nat
  /-- The column of the block collection around the cursor, -1 outside of any. -/
  indent : Int
  /-- The columns of the block collections around that one, innermost first. -/
  indents : List Int
  /-- A key may start here. -/
  keyAllowed : Bool
  candidates : List Candidate
  deriving Repr, DecidableEq

namespace TokenStream

/-- The stream at the start of a document. -/
def start (keepsComments : Bool) (document : List Char) : TokenStream where
  cursor := Cursor.ofText document
  keepsComments := keepsComments
  edition := .current
  done := false
  enclosures := []
  queue := [Token.bare .streamStart Mark.start Mark.start]
  taken := 0
  indent := -1
  indents := []
  keyAllowed := true
  candidates := []

/-- The cursor is inside a flow collection. -/
def inFlow (s : TokenStream) : Bool :=
  !s.enclosures.isEmpty

/-- The place of the cursor. -/
def mark (s : TokenStream) : Mark :=
  s.cursor.mark

/-- A problem at the cursor. -/
def fail {α : Type} (s : TokenStream) (problem : Problem) : Except Error α :=
  .error (.marked none problem s.mark)

/-- The stream with one more token waiting. -/
def push (s : TokenStream) (kind : TokenKind) (start stop : Mark) : TokenStream :=
  { s with queue := s.queue ++ [Token.bare kind start stop] }

/-- The stream with a token of no width waiting. -/
def pushHere (s : TokenStream) (kind : TokenKind) : TokenStream :=
  s.push kind s.mark s.mark

/-- The stream past a number of characters that are a token. -/
def pushOver (s : TokenStream) (kind : TokenKind) (n : Nat) : TokenStream :=
  let after := s.cursor.skip n
  { s with cursor := after }.push kind s.mark after.mark

/-! ## Keys and indentation -/

/-- A required key for which no colon came. -/
def missingColon (s : TokenStream) (k : Candidate) : Error :=
  .marked (some (.simpleKey, k.mark)) .missingColon s.mark

/-- The candidate can no longer be a key: it is on another line or too far away. -/
def isStale (s : TokenStream) (k : Candidate) : Bool :=
  k.mark.line != s.mark.line || 1024 < s.mark.index - k.mark.index

/-- The stream without the candidates that can no longer be keys. -/
def dropStale (s : TokenStream) : Except Error TokenStream :=
  match s.candidates.find? fun k => s.isStale k && k.required with
  | some k => .error (s.missingColon k)
  | none => .ok { s with candidates := s.candidates.filter (!s.isStale ·) }

/-- The candidate of the innermost collection. -/
def candidate? (s : TokenStream) : Option Candidate :=
  s.candidates.find? (·.depth == s.enclosures.length)

/-- The stream without the candidate of the innermost collection. -/
def forgetCandidate (s : TokenStream) : TokenStream :=
  { s with candidates := s.candidates.filter (·.depth != s.enclosures.length) }

/-- The stream without the candidate of the innermost collection, which must not have
been required. -/
def dropCandidate (s : TokenStream) : Except Error TokenStream :=
  match s.candidate? with
  | some k => if k.required then .error (s.missingColon k) else .ok s.forgetCandidate
  | none => .ok s

/-- The stream with a candidate at the cursor, if a key may start there. -/
def saveCandidate (s : TokenStream) : Except Error TokenStream :=
  if s.keyAllowed then do
    let required := !s.inFlow && s.indent == s.mark.column
    let k : Candidate := ⟨s.enclosures.length, s.taken + s.queue.length, required, s.mark⟩
    let s ← s.dropCandidate
    return { s with candidates := s.candidates ++ [k] }
  else .ok s

/-- The ends of the block collections that are indented deeper than a column, and the
indentation that remains. -/
def unwound (column : Int) : Int → List Int → Nat × Int × List Int
  | indent, [] => if column < indent then (1, -1, []) else (0, indent, [])
  | indent, outer :: outers =>
    if column < indent then
      let (n, rest) := unwound column outer outers
      (n + 1, rest)
    else (0, indent, outer :: outers)

/-- The stream with the ends of the block collections that stop before a column. -/
def unwind (s : TokenStream) (column : Int) : TokenStream :=
  if s.inFlow then s
  else
    let (n, indent, indents) := unwound column s.indent s.indents
    { s with
      queue := s.queue ++ List.replicate n (Token.bare .blockEnd s.mark s.mark)
      indent := indent
      indents := indents }

/-- The stream in a block collection at a column, and whether it starts there. -/
def indentTo (s : TokenStream) (column : Nat) : TokenStream × Bool :=
  if s.indent < column then
    ({ s with indent := column, indents := s.indent :: s.indents }, true)
  else (s, false)

/-- The stream in a block collection at the cursor, started by a token if it is new. -/
def openBlock (s : TokenStream) (kind : TokenKind) : TokenStream :=
  let (s, isNew) := s.indentTo s.mark.column
  if isNew then s.pushHere kind else s

/-! ## Between tokens -/

/-- The comment at a cursor, with the line breaks after it, and the cursor past them. The
end of the document counts as a break. -/
def scanComment (c : Cursor) : Remark × Cursor :=
  let line := c.run fun ch => !endsLine (some ch)
  let stop := c.skip line.length
  match stop.peek with
  | none => (⟨String.ofList (line ++ ['\n']), c.mark⟩, stop)
  | some ch =>
    let (breaks, after) := stop.next.lineBreaks stop.rest.length
    (⟨String.ofList (line ++ ch :: breaks), c.mark⟩, after)

/-- The empty lines at a cursor and the cursor past them. Spaces before a comment are no
part of them. -/
def scanEmptyLines (c : Cursor) : Remark × Cursor :=
  let (text, after) := c.emptyLines c.rest.length
  let text := if after.isAt '#' then Text.dropBack (· != '\n') text else text
  (⟨String.ofList text, c.mark⟩, after)

/-- The stream at the next token, or past a comment if comments are kept, with the empty
lines after it; or past a run of empty lines. The result has what was passed. -/
def skipBlanks : Nat → TokenStream → Option Remark × TokenStream
  | 0, s => (none, s)
  | fuel + 1, s =>
    let c := s.cursor.skipRun fun ch => ch == ' ' || (s.inFlow && ch == '\t')
    let fresh := s.keyAllowed || !s.inFlow
    if c.isAt '#' then
      if s.keepsComments then
        let (remark, after) := scanComment c
        (some remark, { s with cursor := after, keyAllowed := fresh })
      else
        let after := c.skipComment
        match after.lineBreak? with
        | some (_, after) => skipBlanks fuel { s with cursor := after, keyAllowed := fresh }
        | none => skipBlanks fuel { s with cursor := after }
    else match c.lineBreak? with
      | some (_, after) =>
        let s := { s with cursor := after, keyAllowed := fresh }
        if s.keepsComments && after.isAt '\n' then
          let (remark, after) := scanEmptyLines after
          (some remark, { s with cursor := after })
        else skipBlanks fuel s
      | none => (none, { s with cursor := c })

/-- The stream past a byte order mark at the very start. -/
def skipOrderMark (s : TokenStream) : TokenStream :=
  if s.mark.index == 0 && s.cursor.isAt '\uFEFF' then { s with cursor := s.cursor.next } else s

/-! ## Single tokens -/

/-- The end of the document. -/
def fetchStreamEnd (s : TokenStream) : Except Error TokenStream := do
  let s ← (s.unwind (-1)).dropCandidate
  return { s with keyAllowed := false, candidates := [], done := true }.pushHere .streamEnd

/-- A directive. -/
def fetchDirective (s : TokenStream) : Except Error TokenStream := do
  let s ← (s.unwind (-1)).dropCandidate
  let ((directive, stop), after) ← scanDirective s.edition s.cursor
  let edition := match directive with
    | .version 1 1 => .legacy
    | .version .. => .current
    | _ => s.edition
  return { s with keyAllowed := false, cursor := after, edition := edition }.push
    (.directive directive) s.mark stop

/-- A separator of documents. -/
def fetchSeparator (s : TokenStream) (kind : TokenKind) : Except Error TokenStream := do
  let s ← (s.unwind (-1)).dropCandidate
  return { s with keyAllowed := false }.pushOver kind 3

/-- The start of a flow collection. -/
def fetchFlowStart (s : TokenStream) (enclosure : Enclosure) : Except Error TokenStream := do
  let s ← s.saveCandidate
  let kind := match enclosure with
    | .sequence => .flowSequenceStart
    | .mapping => .flowMappingStart
  return { s with enclosures := enclosure :: s.enclosures, keyAllowed := true }.pushOver kind 1

/-- The end of a flow collection. -/
def fetchFlowEnd (s : TokenStream) (kind : TokenKind) : Except Error TokenStream := do
  let s ← s.dropCandidate
  return { s with enclosures := s.enclosures.tail, keyAllowed := false }.pushOver kind 1

/-- The comma of a flow collection. -/
def fetchFlowEntry (s : TokenStream) : Except Error TokenStream := do
  let s ← { s with keyAllowed := true }.dropCandidate
  return s.pushOver .flowEntry 1

/-- The dash of a block sequence. -/
def fetchBlockEntry (s : TokenStream) : Except Error TokenStream :=
  if !s.inFlow && !s.keyAllowed then s.fail .sequenceEntryHere
  else do
    let s := if s.inFlow then s else s.openBlock .blockSequenceStart
    let s ← { s with keyAllowed := true }.dropCandidate
    return s.pushOver .blockEntry 1

/-- The question mark of an explicit key. -/
def fetchKey (s : TokenStream) : Except Error TokenStream :=
  if !s.inFlow && !s.keyAllowed then s.fail .mappingKeyHere
  else do
    let s := if s.inFlow then s else s.openBlock .blockMappingStart
    let s ← { s with keyAllowed := !s.inFlow }.dropCandidate
    return s.pushOver .key 1

/-- The queue with tokens put before the one that has the given number. -/
def insertAt (s : TokenStream) (number : Nat) (tokens : List Token) : List Token :=
  let place := number - s.taken
  s.queue.take place ++ tokens ++ s.queue.drop place

/-- The colon of a mapping. If a key started in the innermost collection, its tokens
are put where it started. -/
def fetchValue (s : TokenStream) : Except Error TokenStream :=
  match s.candidate? with
  | some k =>
    let s := s.forgetCandidate
    let (s, isNew) := if s.inFlow then (s, false) else s.indentTo k.mark.column
    let opening := if isNew then [Token.bare .blockMappingStart k.mark k.mark] else []
    let queue := s.insertAt k.token (opening ++ [Token.bare .key k.mark k.mark])
    .ok ({ s with queue := queue, keyAllowed := false }.pushOver .value 1)
  | none =>
    if !s.inFlow && !s.keyAllowed then s.fail .mappingValueHere
    else do
      let s := if s.inFlow then s else s.openBlock .blockMappingStart
      let s ← { s with keyAllowed := !s.inFlow }.dropCandidate
      return s.pushOver .value 1

/-- An anchor or a reference to one. -/
def fetchName (s : TokenStream) (activity : Activity) (kind : String → TokenKind) :
    Except Error TokenStream := do
  let s ← s.saveCandidate
  let (name, after) ← scanName activity s.cursor
  return { s with keyAllowed := false, cursor := after }.push (kind name) s.mark after.mark

/-- A tag. -/
def fetchTag (s : TokenStream) : Except Error TokenStream := do
  let s ← s.saveCandidate
  let (tag, after) ← scanTag s.edition s.cursor
  return { s with keyAllowed := false, cursor := after }.push (.tag tag) s.mark after.mark

/-- The comments and empty lines up to the next token, each with the spaces before it, and
the stream past them. -/
def skipAll : Nat → TokenStream → List Char × TokenStream
  | 0, s => ([], s)
  | fuel + 1, s =>
    match skipBlanks (s.cursor.rest.length + 1) s with
    | (none, s) => ([], s)
    | (some remark, s) =>
      let (rest, s) := skipAll fuel s
      (List.replicate remark.start.column ' ' ++ remark.text.toList ++ rest, s)

/-- A block scalar. The comment in its header stands before it, and the line breaks that
are left out of its text come after it with the comments that follow them. -/
def fetchBlockScalar (s : TokenStream) (folded : Bool) : Except Error TokenStream := do
  let s ← { s with keyAllowed := true }.dropCandidate
  let (scanned, after) ← scanBlock folded s.indent s.cursor
  let next := { s with cursor := after }
  let style := if folded then ScalarStyle.folded else .literal
  let token := Token.bare (.scalar (String.ofList scanned.text) style) s.mark scanned.stop
  let token := match scanned.header with
    | some header =>
      { token with remarks := some { before := some [.header (String.ofList header)] } }
    | none => token
  if scanned.trailing.isEmpty then return { next with queue := next.queue ++ [token] }
  else
    let (following, next) := skipAll (after.rest.length + 1) next
    let token := token.withAfter ⟨String.ofList (scanned.trailing ++ following), scanned.stop⟩
    return { next with queue := next.queue ++ [token] }

/-- A scalar in quotes. -/
def fetchQuoted (s : TokenStream) (double : Bool) : Except Error TokenStream := do
  let s ← s.saveCandidate
  let (scanned, after) ← scanQuoted double s.cursor
  let style := if double then ScalarStyle.doubleQuoted else .singleQuoted
  return { s with keyAllowed := false, cursor := after }.push
    (.scalar (String.ofList scanned.text) style) s.mark scanned.stop

/-- A plain scalar. The empty lines after it are a remark on it. -/
def fetchPlain (s : TokenStream) : Except Error TokenStream := do
  let s ← s.saveCandidate
  let (scanned, after) := scanPlain s.inFlow s.edition (s.indent + 1) s.cursor
  let token := Token.bare (.scalar (String.ofList scanned.text) .plain) s.mark scanned.stop
  let token :=
    if scanned.blanks.head? == some '\n' then
      token.withAfter ⟨String.ofList (scanned.blanks ++ ['\n']), s.mark⟩
    else token
  return { s with
    keyAllowed := scanned.broke, cursor := after, queue := s.queue ++ [token] }

/-! ## The next token -/

/-- A colon here is the colon of a mapping. -/
def atValue (s : TokenStream) : Bool :=
  let ends := endsWord (s.cursor.peekAt 1)
  match s.edition, s.enclosures with
  | .legacy, _ :: _ => true
  | .current, .sequence :: _ => ends
  | .current, .mapping :: _ =>
    if (s.queue.getLast?.map Token.kind) == some .value then ends else true
  | _, [] => ends

/-- A character that no plain scalar starts with. -/
def isIndicator (c : Char) : Bool :=
  c == ' ' || c == '\t' || isBreak c || "-?:,[]\x7b\x7d#&*!|>'\"%@".toList.contains c ||
    c == Char.ofNat 96

/-- A plain scalar starts here. -/
def atPlain (s : TokenStream) (c : Char) : Bool :=
  let next := s.cursor.peekAt 1
  let startsWord := !endsWord next
  if !isIndicator c then true
  else if c == '-' then startsWord
  else if c == ':' && s.edition == .current && s.inFlow then
    next != some ' ' && next != some '\t'
  else !s.inFlow && (c == '?' || c == ':') && startsWord

/-- The token that starts with a character. -/
def fetchAt (s : TokenStream) (c : Char) : Except Error TokenStream :=
  let wordEnds := endsWord (s.cursor.peekAt 1)
  let atMargin := s.mark.column == 0
  if c == '%' && atMargin then s.fetchDirective
  else if atMargin && s.cursor.atDocumentStart then s.fetchSeparator .documentStart
  else if atMargin && s.cursor.atDocumentEnd then s.fetchSeparator .documentEnd
  else if c == '[' then s.fetchFlowStart .sequence
  else if c == '{' then s.fetchFlowStart .mapping
  else if c == ']' then s.fetchFlowEnd .flowSequenceEnd
  else if c == '}' then s.fetchFlowEnd .flowMappingEnd
  else if c == ',' then s.fetchFlowEntry
  else if c == '-' && wordEnds then s.fetchBlockEntry
  else if c == '?' && (s.inFlow || wordEnds) then s.fetchKey
  else if c == ':' && s.atValue then s.fetchValue
  else if c == '*' then s.fetchName .reference .reference
  else if c == '&' then s.fetchName .anchor .anchor
  else if c == '!' then s.fetchTag
  else if c == '|' && !s.inFlow then s.fetchBlockScalar false
  else if c == '>' && !s.inFlow then s.fetchBlockScalar true
  else if c == '\'' then s.fetchQuoted false
  else if c == '"' then s.fetchQuoted true
  else if s.atPlain c then s.fetchPlain
  else .error (.marked (some (.nextToken, s.mark)) (.cannotStart c) s.mark)

/-- The stream with at least one more token. -/
def fetch (s : TokenStream) : Except Error TokenStream :=
  match skipBlanks (s.cursor.rest.length + 1) s.skipOrderMark with
  | (some remark, s) =>
    let text := Text.dropBack (· == ' ') remark.text.toList
    .ok (s.push (.comment (String.ofList text)) remark.start s.mark)
  | (none, s) => do
    let s ← s.dropStale
    let s := s.unwind s.mark.column
    match s.cursor.peek with
    | none => s.fetchStreamEnd
    | some c => s.fetchAt c

/-! ## Taking tokens -/

/-- The first token may turn out to have a key's token before it. -/
def isUndecided (s : TokenStream) : Except Error (TokenStream × Bool) :=
  if s.done then .ok (s, false)
  else if s.queue.isEmpty then .ok (s, true)
  else do
    let s ← s.dropStale
    return (s, (s.candidates.map (·.token)).min? == some s.taken)

/-- The most steps that reading on can take: each takes a character or ends. -/
def fuel (s : TokenStream) : Nat :=
  2 * s.cursor.rest.length + 4

/-- The stream with enough tokens for the first one to be final. -/
def settle : Nat → TokenStream → Except Error TokenStream
  | 0, s => .ok s
  | fuel + 1, s => do
    let (s, more) ← s.isUndecided
    if more then settle fuel (← s.fetch) else return s

/-- The stream with its first token final. -/
def settled (s : TokenStream) : Except Error TokenStream := do
  let (s, more) ← s.isUndecided
  if more then settle s.fuel s else return s

/-- The stream without the token at the given place of the queue. -/
def dropAt (s : TokenStream) (place : Nat) : TokenStream :=
  { s with queue := s.queue.eraseIdx place, taken := s.taken + 1 }

/-- The comment at the given place of the queue, if one is there. -/
def commentAt? (s : TokenStream) (place : Nat) : Option Remark :=
  match s.queue[place]? with
  | some t => match t.kind with
    | .comment text => some ⟨text, t.start⟩
    | _ => none
  | none => none

/-- The comment in the first place, if one is there, and the stream without it. -/
def takeComment (s : TokenStream) : List Preface × TokenStream :=
  match s.commentAt? 0 with
  | some remark => ([.remark remark], s.dropAt 0)
  | none => ([], s)

/-- The comments before the first token, and the stream with that token final. -/
def gather : Nat → List Preface → TokenStream → Except Error (List Preface × TokenStream)
  | 0, found, s => .ok (found, s)
  | fuel + 1, found, s => do
    let (s, more) ← s.isUndecided
    if more then do
      let (next, s) := (← s.fetch).takeComment
      gather fuel (found ++ next) s
    else return (found, s)

/-- The stream with remarks before its first token, which must not have any yet. -/
def preface (s : TokenStream) (found : List Preface) : Except Error TokenStream :=
  match found, s.queue with
  | [], _ | _, [] => .ok s
  | _, t :: rest =>
    let remarks := t.remarks.getD {}
    if remarks.before.isSome || remarks.twice then .error (.fault .crowded)
    else
      let t := { t with remarks := some { remarks with before := some found } }
      .ok { s with queue := t :: rest }

/-- The comments before the first token, from the given ones on, and the stream with that
token final. -/
def gathered (first : List Preface) (s : TokenStream) : Except Error (List Preface × TokenStream) := do
  let (s, more) ← s.isUndecided
  if more then gather s.fuel first s else return (first, s)

/-- The stream with its first token final. If comments are kept, those before it become
remarks on it, and the token after it is read too, as it may be a comment on it. -/
def ready (s : TokenStream) : Except Error TokenStream := do
  let s ← s.settled
  if !s.keepsComments || s.queue.isEmpty then return s
  else
    let (first, s) := s.takeComment
    let (found, s) ← s.gathered first
    let s ← s.preface found
    if !s.done && s.queue.length < 2 then s.fetch else return s

/-- The stream without comments in the second place, reading on after each. -/
def dropFollowing : Nat → TokenStream → Except Error TokenStream
  | 0, s => .ok s
  | fuel + 1, s =>
    if (s.commentAt? 1).isSome then do dropFollowing fuel (← (s.dropAt 1).fetch) else .ok s

/-- The kinds of tokens that the comment on their line belongs to. -/
def ownsLine : TokenKind → Bool
  | .scalar .. | .value | .flowSequenceEnd | .flowMappingEnd => true
  | _ => false

/-- The stream with the comment after its first token as a remark on it: the one on the
same line, or for scalars those on the lines after it. -/
def passComment (s : TokenStream) : Except Error TokenStream :=
  match s.queue, s.commentAt? 1 with
  | first :: _, some remark =>
    if first.stop.line == remark.start.line then
      if ownsLine first.kind then
        let s := s.dropAt 1
        .ok { s with queue := first.withAfter remark :: s.queue.tail }
      else .ok s
    else match first.kind with
      | .scalar .. => dropFollowing s.fuel s
      | _ => .ok s
  | _, _ => .ok s

/-- The first token, and the stream after it. The end of the document is never
passed. -/
def take (s : TokenStream) : Except Error (Token × TokenStream) := do
  let s ← s.ready
  let s ← s.passComment
  match s.queue with
  | t :: rest => return (t, { s with queue := rest, taken := s.taken + 1 })
  | [] => return (Token.bare .streamEnd s.mark s.mark, s)

/-- The first token, which stays. -/
def peek (s : TokenStream) : Except Error (Token × TokenStream) := do
  let s ← s.ready
  match s.queue with
  | t :: _ => return (t, s)
  | [] => return (Token.bare .streamEnd s.mark s.mark, s)

/-- The stream with other remarks on its first token. -/
def mapRemarks (s : TokenStream) (f : Option Remarks → Option Remarks) : TokenStream :=
  match s.queue with
  | t :: rest => { s with queue := { t with remarks := f t.remarks } :: rest }
  | [] => s

end TokenStream

end ContainerLint.Yaml
