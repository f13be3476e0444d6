/-
Scalars without quotes. They run to the end of a line, to a colon that ends a word,
to a comment, or in a flow collection to one of its indicators, and continue on
following lines, whose breaks fold into spaces.
-/
import ContainerLint.Yaml.Cursor

namespace ContainerLint.Yaml

/-- The edition of the language that a document is written in. -/
inductive Edition where
  /-- The edition with the wider set of truth values and octal numbers. -/
  | legacy
  | current
  deriving Repr, DecidableEq

/-- A scalar as it was scanned, with the end of its text. -/
structure Scanned where
  text : List Char
  stop : Mark
  deriving Repr, DecidableEq

/-- The characters of a plain scalar up to a blank or an indicator that ends it. -/
def plainRun (inFlow : Bool) (edition : Edition) : List Char → List Char
  | [] => []
  | c :: cs =>
    if c == ':' then
      if endsWord cs.head? then [] else c :: plainRun inFlow edition cs
    else if c == '?' && edition == .current then c :: plainRun inFlow edition cs
    else if endsWord (some c) || (inFlow && [',', '?', '[', ']', '{', '}'].contains c) then []
    else c :: plainRun inFlow edition cs

/-- The breaks of the blank lines at a cursor, or nothing if a separator of documents
starts one of the lines. Fuel is the number of characters left. -/
def blankLines : Nat → List Char → Cursor → Option (List Char) × Cursor
  | 0, breaks, c => (some breaks, c)
  | fuel + 1, breaks, c =>
    if c.isAt ' ' then blankLines fuel breaks c.next
    else match c.lineBreak? with
      | some (ch, c) => if c.atSeparator then (none, c) else blankLines fuel (breaks ++ [ch]) c
      | none => (some breaks, c)

/-- What a line break and the blank lines after it fold into. -/
def foldBreaks (first : Char) (breaks : List Char) : List Char :=
  if first != '\n' then first :: breaks
  else if breaks.isEmpty then [' ']
  else breaks

/-- The blanks between two parts of a plain scalar, folded, whether they broke the
line, and the cursor past them. No blanks end the scalar. -/
def plainBlanks (c : Cursor) : List Char × Bool × Cursor :=
  let spaces := c.run (· == ' ')
  let c := c.skipSpaces
  match c.lineBreak? with
  | none => (spaces, false, c)
  | some (first, c) =>
    if c.atSeparator then ([], true, c)
    else match blankLines c.rest.length [] c with
      | (none, c) => ([], true, c)
      | (some breaks, c) => (foldBreaks first breaks, true, c)

/-- A plain scalar as it was scanned: the blanks after it, folded, and whether they broke
the line, after which a key may follow. -/
structure ScannedPlain extends Scanned where
  blanks : List Char
  broke : Bool
  deriving Repr, DecidableEq

/-- The rest of a plain scalar, from a part of it on. -/
def plainParts (inFlow : Bool) (edition : Edition) (indent : Int) :
    Nat → ScannedPlain → Cursor → ScannedPlain × Cursor
  | 0, p, c => (p, c)
  | fuel + 1, p, c =>
    let part := plainRun inFlow edition c.rest
    if c.isAt '#' || part.isEmpty then (p, c)
    else
      let text := p.text ++ p.blanks ++ part
      let c := c.skip part.length
      let stop := c.mark
      let (blanks, broke, c) := plainBlanks c
      let p : ScannedPlain := ⟨⟨text, stop⟩, blanks, broke⟩
      if blanks.isEmpty || c.isAt '#' || (!inFlow && c.mark.column < indent) then (p, c)
      else plainParts inFlow edition indent fuel p c

/-- A plain scalar at a cursor, in a block that is indented by `indent` at least. -/
def scanPlain (inFlow : Bool) (edition : Edition) (indent : Int) (c : Cursor) :
    ScannedPlain × Cursor :=
  plainParts inFlow edition indent (c.rest.length + 1) ⟨⟨[], c.mark⟩, [], false⟩ c

end ContainerLint.Yaml
