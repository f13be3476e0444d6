/-
The values that a document or a configuration holds. Mappings keep their entries in
the order of writing, and their keys are values too; two keys are the same if they
have the same value, so that 1, 1.0 and true are one key. A value that holds itself
is a *knot*: inside of it, a mark stands where the whole comes again.
-/
import ContainerLint.Number.Double
import ContainerLint.Value.Calendar

namespace ContainerLint

/-- The way a scalar is written. -/
inductive ScalarStyle where
  | plain
  | singleQuoted
  | doubleQuoted
  | literal
  | folded
  deriving Repr, DecidableEq

/-- A scalar under a tag that has no meaning here. It is the same as itself only, so the
place it is written at belongs to it. -/
structure TaggedText where
  text : String
  style : ScalarStyle
  tag : String
  place : Nat
  deriving Repr, DecidableEq

/-- What a value that holds itself is. -/
inductive Shape where
  | list
  | map
  | ordered
  deriving Repr, DecidableEq

/-- A value of a document. -/
inductive Value where
  | null
  | bool (b : Bool)
  | int (n : Int)
  | float (x : Double)
  | text (s : String)
  | date (d : Date)
  | moment (m : Moment)
  | bytes (bs : List UInt8)
  | list (items : List Value)
  /-- A list that stands as a key. -/
  | tuple (items : List Value)
  | map (entries : List (Value × Value))
  /-- A mapping whose order is part of it. -/
  | ordered (entries : List (Value × Value))
  /-- A mapping that stands as a key. -/
  | frozen (entries : List (Value × Value))
  | set (items : List Value)
  /-- A set whose order is part of it. -/
  | orderedSet (items : List Value)
  /-- A scalar under a tag that has no meaning here. -/
  | tagged (t : TaggedText)
  /-- A value that holds itself, under a number of its own. -/
  | knot (id : Nat) (inner : Value)
  /-- The place inside a knot where the whole comes again. -/
  | again (id : Nat) (shape : Shape)
  deriving Repr, Inhabited

namespace Value

/-! ## Values that hold themselves -/

mutual

/-- The value with the whole in each place where it comes again. -/
def fill (id : Nat) (whole : Value) : Value → Value
  | .again i shape => if i == id then whole else .again i shape
  | .knot i inner => if i == id then .knot i inner else .knot i (fill id whole inner)
  | .list items => .list (fillAll id whole items)
  | .tuple items => .tuple (fillAll id whole items)
  | .map entries => .map (fillEntries id whole entries)
  | .ordered entries => .ordered (fillEntries id whole entries)
  | .frozen entries => .frozen (fillEntries id whole entries)
  | v => v

/-- Each value with the whole in each place where it comes again. -/
def fillAll (id : Nat) (whole : Value) : List Value → List Value
  | [] => []
  | v :: vs => fill id whole v :: fillAll id whole vs

/-- Each entry with the whole in each place where it comes again. -/
def fillEntries (id : Nat) (whole : Value) : List (Value × Value) → List (Value × Value)
  | [] => []
  | (k, v) :: entries => (fill id whole k, fill id whole v) :: fillEntries id whole entries

end

/-- The value itself, where a knot is undone once. -/
def opened : Value → Value
  | .knot id inner => fill id (.knot id inner) inner
  | v => v

/-- The value itself, where the inside of a knot is left as it is. -/
def bare : Value → Value
  | .knot _ inner => inner
  | v => v

/-! ## Sameness -/

mutual

/-- The two values are the same. -/
def same : Value → Value → Bool
  | .null, .null => true
  | .bool a, .bool b => a == b
  | .int a, .int b => a == b
  | .bool a, .int b => (if a then 1 else 0) == b
  | .int a, .bool b => a == (if b then 1 else 0)
  | .float a, .float b => a.same b
  | .float a, .int b => a.equalsInt b
  | .int a, .float b => b.equalsInt a
  | .float a, .bool b => a.equalsInt (if b then 1 else 0)
  | .bool a, .float b => b.equalsInt (if a then 1 else 0)
  | .text a, .text b => a == b
  | .date a, .date b => a == b
  | .moment a, .moment b => a.same b
  | .bytes a, .bytes b => a == b
  | .list a, .list b => allSame a b
  | .tuple a, .tuple b => allSame a b
  | .set a, .set b => allSame a b
  | .orderedSet a, .orderedSet b => allSame a b
  | .map a, .map b => allSameEntries a b
  | .ordered a, .ordered b => allSameEntries a b
  | .frozen a, .frozen b => allSameEntries a b
  | .tagged a, .tagged b => a.place == b.place
  | _, _ => false

/-- The two lists have the same values in the same places. -/
def allSame : List Value → List Value → Bool
  | [], [] => true
  | a :: as, b :: bs => same a b && allSame as bs
  | _, _ => false

/-- The two lists have the same entries in the same places. -/
def allSameEntries : List (Value × Value) → List (Value × Value) → Bool
  | [], [] => true
  | (k, a) :: as, (l, b) :: bs => same k l && same a b && allSameEntries as bs
  | _, _ => false

end

/-! ## Entries of mappings -/

/-- The value of the first entry with the given key. -/
def find? (key : Value) : List (Value × Value) → Option Value
  | [] => none
  | (k, v) :: entries => if same k key then some v else find? key entries

/-- The entries with a value put under a key: in the key's place if it is there, else
at the end. -/
def put (key value : Value) : List (Value × Value) → List (Value × Value)
  | [] => [(key, value)]
  | (k, v) :: entries =>
    if same k key then (k, value) :: entries else (k, v) :: put key value entries

/-- The entries of a mapping. -/
def entries? (v : Value) : Option (List (Value × Value)) :=
  match v.opened with
  | .map entries => some entries
  | .ordered entries => some entries
  | _ => none

/-- The items of a list. -/
def items? (v : Value) : Option (List Value) :=
  match v.opened with
  | .list items => some items
  | _ => none

/-- The value under a text key; nothing if the value is no mapping or lacks the key. -/
def get? (v : Value) (key : String) : Option Value :=
  v.entries?.bind (find? (.text key))

/-- The value under a text key, null if there is none. -/
def getD (v : Value) (key : String) : Value :=
  (v.get? key).getD .null

/-! ## Kinds -/

/-- The value is absent. -/
def isNull : Value → Bool
  | .null => true
  | _ => false

/-- The value is a mapping. -/
def isMap (v : Value) : Bool :=
  match v.bare with
  | .map _ | .ordered _ => true
  | _ => false

/-- The value counts as true: it is neither absent nor false, zero or empty. -/
def isTrue (v : Value) : Bool :=
  match v.bare with
  | .null => false
  | .bool b => b
  | .int n => n != 0
  | .float x => !x.isZero
  | .text s => !s.isEmpty
  | .bytes bs => !bs.isEmpty
  | .list items => !items.isEmpty
  | .tuple items => !items.isEmpty
  | .map entries => !entries.isEmpty
  | .ordered entries => !entries.isEmpty
  | .frozen entries => !entries.isEmpty
  | .set items => !items.isEmpty
  | .orderedSet items => !items.isEmpty
  | .date _ | .moment _ | .tagged _ | .knot .. | .again .. => true

/-- The name of the kind of a value, as messages give it. -/
def kindName (v : Value) : String :=
  match v.bare with
  | .null => "NoneType"
  | .bool _ => "bool"
  | .int _ => "int"
  | .float _ => "float"
  | .text _ => "str"
  | .date _ => "date"
  | .moment _ => "datetime"
  | .bytes _ => "bytes"
  | .list _ | .again _ .list => "list"
  | .tuple _ => "tuple"
  | .map _ | .again _ .map | .knot .. => "dict"
  | .ordered _ | .again _ .ordered => "ordereddict"
  | .frozen _ => "CommentedKeyMap"
  | .set _ => "set"
  | .orderedSet _ => "CommentedSet"
  | .tagged _ => "TaggedScalar"

end Value

end ContainerLint
