/-
The flags at the front of an instruction's arguments: `--name` or `--name=value`,
one after another. A name starts with a letter; a value runs to the next blank.
-/
import ContainerLint.Dockerfile.Error
import ContainerLint.Text.Alphanumeric
import ContainerLint.Text.Case
import ContainerLint.Text.Cut

namespace ContainerLint.Dockerfile

open ContainerLint.Text

/-- A flag as it is written: its name, its value if an equals sign follows the name,
and the text after it. -/
structure WrittenFlag where
  name : List Char
  value : Option (List Char)
  rest : List Char

/-- The text of a flag, without what follows it. -/
def WrittenFlag.text (f : WrittenFlag) : List Char :=
  '-' :: '-' :: f.name ++ (match f.value with | some v => '=' :: v | none => [])

/-- A character of a flag's name after the first. -/
def isFlagChar (c : Char) : Bool :=
  isWordChar c || c == '-'

/-- The flag at the very front of a text. -/
def readFlag? : List Char → Option WrittenFlag
  | '-' :: '-' :: c :: cs =>
    if c.isAlpha then
      let name := c :: cs.takeWhile isFlagChar
      match cs.dropWhile isFlagChar with
      | '=' :: back =>
        some ⟨name, some (back.takeWhile (!isBlank ·)), back.dropWhile (!isBlank ·)⟩
      | back => some ⟨name, none, back⟩
    else none
  | _ => none

/-- The text starts like a flag. -/
def startsFlag : List Char → Bool
  | '-' :: '-' :: _ => true
  | _ => false

theorem length_dropWhile_le (p : Char → Bool) (cs : List Char) :
    (cs.dropWhile p).length ≤ cs.length :=
  (List.dropWhile_sublist p).length_le

/-- A flag takes up text, so reading flags one after another comes to an end. -/
theorem readFlag?_rest_lt {cs : List Char} {f : WrittenFlag} (h : readFlag? cs = some f) :
    f.rest.length < cs.length := by
  unfold readFlag? at h
  split at h
  next c cs =>
    split at h
    · have hle := length_dropWhile_le isFlagChar cs
      split at h
      next back hback =>
        have hback' := length_dropWhile_le (!isBlank ·) back
        rw [hback] at hle
        simp only [Option.some.injEq] at h
        subst h
        simp only [List.length_cons] at *
        omega
      next =>
        simp only [Option.some.injEq] at h
        subst h
        simp only [List.length_cons]
        omega
    · simp at h
  next => simp at h

/-- A flag of an instruction: its name in lower case and its value. -/
abbrev Flag := String × Option String

/-- Takes the flags off the front of an instruction's arguments. Only the flags that
the instruction knows are accepted. -/
def splitFlags (keyword : String) (allowed : List String) (cs : List Char) :
    Except InstructionError (List Flag × List Char) :=
  if startsFlag cs then
    match h : readFlag? cs with
    | none => .error (.fault (.malformedFlag keyword) none)
    | some f =>
      let name := lower (String.ofList f.name)
      if allowed.contains name then
        have : (trimLeft f.rest).length < cs.length :=
          Nat.lt_of_le_of_lt (length_dropWhile_le isBlank f.rest) (readFlag?_rest_lt h)
        match splitFlags keyword allowed (trimLeft f.rest) with
        | .ok (flags, rest) => .ok ((name, f.value.map String.ofList) :: flags, rest)
        | .error e => .error e
      else .error (.fault (.unknownFlag name keyword) none)
  else .ok ([], cs)
termination_by cs.length

/-- The flags at the front of a text, as they are written, and the text after them;
nothing if one of them is malformed. -/
def writtenFlags? (cs : List Char) : Option (List (List Char) × List Char) :=
  if startsFlag cs then
    match h : readFlag? cs with
    | none => none
    | some f =>
      have : (trimLeft f.rest).length < cs.length :=
        Nat.lt_of_le_of_lt (length_dropWhile_le isBlank f.rest) (readFlag?_rest_lt h)
      (writtenFlags? (trimLeft f.rest)).map fun (flags, rest) => (f.text :: flags, rest)
  else some ([], cs)
termination_by cs.length

/-- The value of a flag, the last one counting; `none` where the flag is not given,
`some none` where it is given without a value. -/
def flagValue? (flags : List Flag) (name : String) : Option (Option String) :=
  flags.reverse.lookup name

/-- The text that a flag is given. -/
def flagText? (flags : List Flag) (name : String) : Option String :=
  (flagValue? flags name).join

/-- A switch: on when it is given, unless with the value `false`. -/
def flagOn (flags : List Flag) (name : String) : Bool :=
  match flagValue? flags name with
  | none => false
  | some none => true
  | some (some text) => lower text != "false"

end ContainerLint.Dockerfile
