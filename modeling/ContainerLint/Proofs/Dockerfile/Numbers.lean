/-
Numbers in instructions.

Reading an instruction fails in two ways: with a fault, which names what is wrong with
the instruction, and at a run of digits that is no number. The second kind cannot happen
where all runs of digits are plain. That is a fact about what the reader does with its
text, for it is asked of the whole text and used at a part of it: all that is read as a
number is a stretch of the text, put together at most with blanks.
-/
import ContainerLint.Dockerfile.Parser
import ContainerLint.Proofs.Text.Digits

namespace ContainerLint.Dockerfile

open ContainerLint.Text

/-! ## Readings without a number that fails -/

/-- The reading comes to no number that it cannot read; what it gives, if it gives
something, has the property. -/
inductive NumbersRead {α : Type} (p : α → Prop) : Except InstructionError α → Prop
  | ok {a : α} : p a → NumbersRead p (.ok a)
  | fault (cause : Fault) (column : Option Nat) : NumbersRead p (.error (.fault cause column))

namespace NumbersRead

variable {α β : Type} {p : α → Prop} {q : β → Prop} {x : Except InstructionError α}

/-- Readings that follow one another. -/
theorem bind {f : α → Except InstructionError β} (hx : NumbersRead p x)
    (hf : ∀ a, p a → NumbersRead q (f a)) : NumbersRead q (x >>= f) := by
  cases hx with
  | ok ha => exact hf _ ha
  | fault cause column => exact fault cause column

theorem map {f : α → β} (hx : NumbersRead p x) (hf : ∀ a, p a → q (f a)) :
    NumbersRead q (x.map f) :=
  hx.bind fun a ha => ok (hf a ha)

/-- A guard in front of the rest of a reading. -/
theorem guard {c : Prop} [Decidable c] {cause : Fault} {f : PUnit → Except InstructionError β}
    (hf : ¬ c → NumbersRead q (f ⟨⟩)) :
    NumbersRead q (if c then fail cause >>= f else f ⟨⟩) := by
  split
  next => exact fault cause none
  next hc => exact hf hc

/-- One reading for each of the items. -/
theorem mapM {f : α → Except InstructionError β} {xs : List α}
    (h : ∀ a ∈ xs, NumbersRead (fun _ => True) (f a)) :
    NumbersRead (fun _ => True) (xs.mapM f) := by
  induction xs with
  | nil => exact ok trivial
  | cons a xs ih =>
    rw [List.forall_mem_cons] at h
    rw [List.mapM_cons]
    exact h.1.bind fun _ _ => (ih h.2).bind fun _ _ => ok trivial

end NumbersRead

/-! ## Flags -/

/-- The values of the flags have plain digits. -/
def HavePlainValues (flags : List (String × Option String)) : Prop :=
  ∀ f ∈ flags, ∀ v ∈ f.2, HasPlainDigits v.toList

/-- A flag is cut off the front and nothing is lost. -/
theorem append_of_readFlag? {cs : List Char} {f : WrittenFlag} (h : readFlag? cs = some f) :
    cs = f.text ++ f.rest := by
  unfold readFlag? at h
  split at h
  next c cs =>
    split at h
    next =>
      -- the name runs to the first character no flag has, the value to the first blank
      have hname := List.takeWhile_append_dropWhile (p := isFlagChar) (l := cs)
      split at h
      next back hback =>
        cases h
        rw [hback] at hname
        have hvalue := List.takeWhile_append_dropWhile (p := (!isBlank ·)) (l := back)
        simp only [WrittenFlag.text, List.cons_append, List.append_assoc, hvalue, hname]
      next =>
        cases h
        simp only [WrittenFlag.text, List.cons_append, List.append_nil, hname]
    next => cases h
  next => cases h

/-- The parts of a flag are stretches of the text it is read from. -/
theorem hasPlainDigits_of_readFlag? {cs : List Char} {f : WrittenFlag} (h : HasPlainDigits cs)
    (hf : readFlag? cs = some f) :
    HasPlainDigits f.text ∧ (∀ v ∈ f.value, HasPlainDigits v) ∧
      HasPlainDigits (trimLeft f.rest) := by
  rw [append_of_readFlag? hf] at h
  have htext : HasPlainDigits f.text := h.of_isInfix (List.prefix_append _ _).isInfix
  refine ⟨htext, fun v hv => htext.of_isInfix ?_, ?_⟩
  · rw [WrittenFlag.text, Option.mem_def.mp hv]
    exact (List.suffix_cons '=' v).isInfix.trans (List.suffix_append _ _).isInfix
  · exact (h.of_isInfix (List.suffix_append _ _).isInfix).of_isInfix (infix_dropFront isBlank _)

/-- The flags of an instruction read no number, and leave values and a rest with plain digits. -/
theorem numbersRead_splitFlags {cs : List Char} (h : HasPlainDigits cs) (keyword : String)
    (allowed : List String) :
    NumbersRead (fun r => HavePlainValues r.1 ∧ HasPlainDigits r.2)
      (splitFlags keyword allowed cs) := by
  fun_induction splitFlags keyword allowed cs with
  | case1 cs hstarts hflag => exact .fault _ none
  | case2 cs hstarts f hflag name hallowed hlt flags rest hrest ih =>
    obtain ⟨-, hvalue, htail⟩ := hasPlainDigits_of_readFlag? h hflag
    specialize ih htail
    rw [hrest] at ih
    cases ih with
    | ok ih =>
      refine .ok ⟨?_, ih.2⟩
      rw [HavePlainValues, List.forall_mem_cons]
      refine ⟨fun v hv => ?_, ih.1⟩
      obtain ⟨cs, hcs, rfl⟩ := Option.map_eq_some_iff.mp hv
      rw [String.toList_ofList]
      exact hvalue cs hcs
  | case3 cs hstarts f hflag name hallowed hlt e he ih =>
    specialize ih (hasPlainDigits_of_readFlag? h hflag).2.2
    rw [he] at ih
    cases ih with
    | fault cause column => exact .fault cause column
  | case4 cs hstarts f hflag name hallowed => exact .fault _ none
  | case5 cs hstarts => exact .ok ⟨fun _ hf => (nomatch hf), h⟩

/-- What stands last under a name stands there. -/
theorem mem_of_lookup_reverse {entries : List (String × Option String)} {name v : String}
    (h : (entries.reverse.lookup name).join = some v) : (name, some v) ∈ entries := by
  rw [Option.join_eq_some_iff] at h
  obtain ⟨front, back, hentries, -⟩ := List.lookup_eq_some_iff.mp h
  rw [← List.mem_reverse, hentries]
  exact List.mem_append_right _ List.mem_cons_self

theorem HavePlainValues.lookup {entries : List (String × Option String)}
    (h : HavePlainValues entries) {name v : String}
    (hv : (entries.reverse.lookup name).join = some v) : HasPlainDigits v.toList :=
  h _ (mem_of_lookup_reverse hv) v rfl

/-! ## The numbers of the instructions -/

theorem toList_ne_nil_of_not_isEmpty {s : String} (h : s.isEmpty = false) : s.toList ≠ [] := by
  intro hnil
  rw [String.toList_eq_nil_iff.mp hnil] at h
  cases h

namespace Mount

/-- The options in a flag's text have values with plain digits. -/
theorem havePlainValues_readOptions {spec : List Char} (h : HasPlainDigits spec) :
    HavePlainValues (readOptions spec) := by
  intro option hoption v hv
  obtain ⟨part, hpart, rfl⟩ := List.mem_map.mp hoption
  have hplain : HasPlainDigits part :=
    h.of_isInfix (infix_of_mem_splitAtChar (List.mem_filter.mp hpart).1)
  unfold readOption at hv
  split at hv
  next key value hcut =>
    cases hv
    rw [String.toList_ofList]
    rw [append_of_cutAt hcut] at hplain
    exact hplain.of_isInfix ((infix_trim value).trans
      ((List.suffix_cons '=' value).trans (List.suffix_append key _)).isInfix)
  next => cases hv

/-- An option that is to be a number is read as one if its digits are plain. -/
theorem numbersRead_number? {options : Options} (h : HavePlainValues options) (key : String) :
    NumbersRead (fun _ => True) (number? options key) := by
  unfold number?
  split
  next => exact .ok trivial
  next value hvalue =>
    split
    next hdigits =>
      simp only [Bool.and_eq_true, Bool.not_eq_true', List.all_eq_true] at hdigits
      obtain ⟨n, hn⟩ := (h.lookup hvalue).exists_readDecimal
        (toList_ne_nil_of_not_isEmpty hdigits.1) hdigits.2
      rw [hn]
      exact .ok trivial
    next => exact .fault _ none

/-- The mount that a flag asks for. -/
theorem numbersRead_ofSpec {spec : List Char} (h : HasPlainDigits spec) :
    NumbersRead (fun _ => True) (ofSpec spec) := by
  have hoptions := havePlainValues_readOptions h
  unfold ofSpec
  dsimp only
  split
  next => exact .fault _ none
  next =>
    exact (numbersRead_number? hoptions "uid").bind fun _ _ =>
      (numbersRead_number? hoptions "gid").bind fun _ _ => .ok trivial

end Mount

namespace Port

/-- The numbers of a port are runs of decimal digits in its text. -/
theorem stretch_of_parts? {cs : List Char} {parts : Parts} (h : parts? cs = some parts) :
    ∀ part ∈ parts.first :: parts.last.toList,
      part <:+: cs ∧ part ≠ [] ∧ ∀ c ∈ part, isDecimal c = true := by
  have hrun : ∀ back : List Char, back <:+: cs → (back.takeWhile isDecimal).isEmpty ≠ true →
      back.takeWhile isDecimal <:+: cs ∧ back.takeWhile isDecimal ≠ [] ∧
        ∀ c ∈ back.takeWhile isDecimal, isDecimal c = true := by
    intro back hback hne
    exact ⟨( List.takeWhile_prefix _).isInfix.trans hback, fun h => hne (by rw [h]; rfl),
      fun c hc => List.mem_takeWhile_imp hc⟩
  unfold parts? at h
  dsimp only at h
  split at h
  next => cases h
  next hfirst =>
    split at h
    next back hback =>
      split at h
      next => cases h
      next hlast =>
        obtain ⟨protocol, -, rfl⟩ := Option.map_eq_some_iff.mp h
        have hsuffix : back <:+: cs :=
          ((List.suffix_cons '-' back).trans (hback ▸ List.dropWhile_suffix isDecimal)).isInfix
        simp only [Option.toList_some, List.forall_mem_cons, List.not_mem_nil, false_imp_iff,
          implies_true, and_true]
        exact ⟨hrun cs (List.infix_refl cs) hfirst, hrun back hsuffix hlast⟩
    next =>
      obtain ⟨protocol, -, rfl⟩ := Option.map_eq_some_iff.mp h
      simp only [Option.toList_none, List.forall_mem_cons, List.not_mem_nil, false_imp_iff,
        implies_true, and_true]
      exact hrun cs (List.infix_refl cs) hfirst

theorem numbersRead_protocolOf (name : Option (List Char)) :
    NumbersRead (fun _ => True) (protocolOf name) := by
  unfold protocolOf
  split
  all_goals first
    | exact .ok trivial
    | exact .fault _ none

/-- The port, or range of ports, of a word. -/
theorem numbersRead_ofWord {cs : List Char} (h : HasPlainDigits cs) :
    NumbersRead (fun _ => True) (ofWord cs) := by
  unfold ofWord
  split
  next parts hparts =>
    have hnumber : ∀ part ∈ parts.first :: parts.last.toList,
        NumbersRead (fun _ => True) (readNumber part) := by
      intro part hpart
      obtain ⟨hstretch, hne, hdecimal⟩ := stretch_of_parts? hparts part hpart
      obtain ⟨n, hn⟩ := (h.of_isInfix hstretch).exists_readDecimal hne fun c hc => by
        rw [isDigit, hdecimal c hc, Bool.true_or]
      rw [readNumber, hn]
      exact .ok trivial
    rw [List.forall_mem_cons] at hnumber
    refine hnumber.1.bind fun _ _ => ?_
    have hlast : NumbersRead (fun _ => True) (parts.last.mapM readNumber) := by
      cases hlast : parts.last with
      | none => exact .ok trivial
      | some last =>
        exact (hnumber.2 last (by simp [hlast])).bind fun _ _ => .ok trivial
    exact hlast.bind fun _ _ => (numbersRead_protocolOf _).bind fun _ _ => .ok trivial
  next =>
    split
    next => exact (numbersRead_protocolOf _).bind fun _ _ => .ok trivial
    next => exact .fault _ none

end Port

/-- What a copying instruction copies from has plain digits. -/
def Instruction.HasPlainOrigin : Instruction → Prop
  | .copy _ _ flags => ∀ origin ∈ flags.origin, HasPlainDigits origin.toList
  | .onBuild i => i.HasPlainOrigin
  | _ => True

section Readers

variable {rest : List Char}

theorem numbersRead_requireText (keyword : String) (h : HasPlainDigits rest) :
    NumbersRead (fun text => HasPlainDigits text.toList) (requireText keyword rest) := by
  unfold requireText
  split
  next => exact .fault _ none
  next => exact .ok (by rwa [String.toList_ofList])

theorem numbersRead_readArguments (keyword : String) (rest : List Char) :
    NumbersRead (fun _ => True) (readArguments keyword rest) := by
  unfold readArguments
  split
  next => exact .fault _ none
  next => split <;> exact .ok trivial

theorem numbersRead_readWords (keyword : String) (rest : List Char) :
    NumbersRead (fun _ => True) (readWords keyword rest) := by
  unfold readWords
  split
  next => exact .ok trivial
  next => exact .fault _ none

theorem numbersRead_readPaths (keyword : String) (rest : List Char) :
    NumbersRead (fun _ => True) (readPaths keyword rest) := by
  have hpaths : ∀ paths, NumbersRead (fun _ => True) (splitPaths keyword paths) := by
    intro paths
    unfold splitPaths
    split
    next => exact .fault _ none
    next => exact .ok trivial
    next => exact .ok trivial
  refine (numbersRead_readArguments keyword rest).bind fun arguments _ => ?_
  cases arguments with
  | exec items => exact hpaths items
  | shell text => exact (numbersRead_readWords keyword _).bind fun _ _ => hpaths _

theorem numbersRead_readPairs (keyword : String) (rest : List Char) :
    NumbersRead (fun _ => True) (readPairs keyword rest) := by
  unfold readPairs
  split
  next => exact .fault _ none
  next =>
    split
    next =>
      refine (numbersRead_readWords keyword rest).bind fun words _ => .mapM fun word _ => ?_
      unfold readPair
      split
      next => exact .ok trivial
      next => exact .fault _ none
    next => exact .ok trivial

/-- `FROM` reads no number and copies from nowhere. -/
theorem numbersRead_readFrom (h : HasPlainDigits rest) :
    NumbersRead Instruction.HasPlainOrigin (readFrom rest) := by
  refine (numbersRead_splitFlags h _ _).bind fun r _ => .guard fun _ => ?_
  dsimp only
  split
  next => exact .fault _ none
  next => exact .ok trivial
  next =>
    split
    next => exact .ok trivial
    next => exact .fault _ none
  next => exact .fault _ none

/-- `RUN` reads numbers in its mounts. -/
theorem numbersRead_readRun (h : HasPlainDigits rest) :
    NumbersRead Instruction.HasPlainOrigin (readRun rest) := by
  refine (numbersRead_splitFlags h _ _).bind fun r hr => ?_
  have hmounts : NumbersRead (fun _ => True) (readMounts r.1) := by
    refine .mapM fun flag hflag => Mount.numbersRead_ofSpec ?_
    cases hvalue : flag.2 with
    | none => exact .nil
    | some v => exact hr.1 flag (List.mem_filter.mp hflag).1 v hvalue
  exact hmounts.bind fun _ _ => (numbersRead_readArguments _ _).bind fun _ _ => .ok trivial

/-- `COPY` keeps the stage it copies from. -/
theorem numbersRead_readCopy (h : HasPlainDigits rest) :
    NumbersRead Instruction.HasPlainOrigin (readCopy rest) := by
  refine (numbersRead_splitFlags h _ _).bind fun r hr => ?_
  refine (numbersRead_readPaths _ _).bind fun paths _ => .ok fun origin horigin => ?_
  exact hr.1.lookup horigin

theorem numbersRead_readAdd (h : HasPlainDigits rest) :
    NumbersRead Instruction.HasPlainOrigin (readAdd rest) := by
  refine (numbersRead_splitFlags h _ _).bind fun r hr => ?_
  exact (numbersRead_readPaths _ _).bind fun paths _ => .ok trivial

/-- `EXPOSE` reads a number in every word. -/
theorem numbersRead_readExpose (h : HasPlainDigits rest) :
    NumbersRead Instruction.HasPlainOrigin (readExpose rest) := by
  refine (numbersRead_requireText _ h).bind fun text htext => ?_
  refine (NumbersRead.mapM fun word hword => ?_).bind fun _ _ => .ok trivial
  exact Port.numbersRead_ofWord (htext.of_isInfix (infix_of_mem_words hword))

theorem numbersRead_readArg (h : HasPlainDigits rest) :
    NumbersRead Instruction.HasPlainOrigin (readArg rest) := by
  refine (numbersRead_requireText _ h).bind fun text _ => ?_
  dsimp only
  split <;> split
  all_goals first
    | exact .ok trivial
    | exact .fault _ none

theorem numbersRead_readShell (rest : List Char) :
    NumbersRead Instruction.HasPlainOrigin (readShell rest) := by
  refine (numbersRead_readArguments _ _).bind fun arguments _ => ?_
  split
  next => exact .ok trivial
  next => exact .fault _ none

/-- `HEALTHCHECK` reads the number of its retries, and the command it names. -/
theorem numbersRead_readHealthcheck (h : HasPlainDigits rest) :
    NumbersRead Instruction.HasPlainOrigin (readHealthcheck rest) := by
  refine (numbersRead_requireText _ h).bind fun text _ => ?_
  split
  next => exact .ok trivial
  next =>
    -- the second guard has the retries be digits, before they are read as a number
    refine (numbersRead_splitFlags h _ _).bind fun r hr => .guard fun _ => .guard fun hretries => ?_
    refine (numbersRead_readArguments _ _).bind fun arguments _ => ?_
    have hcount : NumbersRead (fun _ => True) ((flagText? r.1 "retries").mapM fun v =>
        (readDecimal v.toList).mapError InstructionError.numeral) := by
      cases hv : flagText? r.1 "retries" with
      | none => exact .ok trivial
      | some v =>
        simp only [hv, Option.any_some, Bool.or_eq_true, Bool.not_eq_true', not_or,
          Bool.not_eq_true, Bool.not_eq_false, List.all_eq_true] at hretries
        obtain ⟨n, hn⟩ := (hr.1.lookup hv).exists_readDecimal
          (toList_ne_nil_of_not_isEmpty hretries.1) hretries.2
        rw [Option.mapM_some, hn]
        exact .ok trivial
    exact hcount.bind fun _ _ => .ok trivial

/-- **No reader comes to a number that it cannot read**, if the digits are plain. -/
theorem numbersRead_of_reader? {word : String} {reader : ArgumentReader}
    (hreader : reader? word = some reader) (h : HasPlainDigits rest) :
    NumbersRead Instruction.HasPlainOrigin (reader rest) := by
  unfold reader? at hreader
  split at hreader
  -- one case for each keyword, in the order of the table
  all_goals cases hreader
  · exact numbersRead_readFrom h
  · exact numbersRead_readRun h
  · exact numbersRead_readCopy h
  · exact numbersRead_readAdd h
  · exact (numbersRead_readPairs _ _).map fun _ _ => trivial
  · exact (numbersRead_readPairs _ _).map fun _ _ => trivial
  · exact numbersRead_readExpose h
  · exact numbersRead_readArg h
  · exact (numbersRead_readArguments _ _).map fun _ _ => trivial
  · exact (numbersRead_readArguments _ _).map fun _ _ => trivial
  · exact numbersRead_readShell rest
  · exact (numbersRead_requireText _ h).map fun _ _ => trivial
  · exact (numbersRead_requireText _ h).map fun _ _ => trivial
  · exact (numbersRead_readArguments _ _).bind fun _ _ => .ok trivial
  · exact (numbersRead_requireText _ h).map fun _ _ => trivial
  · exact (numbersRead_requireText _ h).map fun _ _ => trivial
  · exact numbersRead_readHealthcheck h

/-- An instruction under any keyword. -/
theorem numbersRead_readPlain (word : List Char) (h : HasPlainDigits rest) :
    NumbersRead Instruction.HasPlainOrigin (readPlain word rest) := by
  unfold readPlain
  split
  next reader hreader => exact numbersRead_of_reader? hreader (h.of_isInfix (infix_trim rest))
  next => exact .fault _ _

/-- A whole instruction, also one that is put off by `ONBUILD`. -/
theorem numbersRead_readInstruction {text : List Char} (h : HasPlainDigits text) :
    NumbersRead Instruction.HasPlainOrigin (readInstruction text) := by
  unfold readInstruction
  split
  next => exact .fault _ none
  next word rest hword =>
    have hrest : HasPlainDigits rest := h.of_isInfix (infix_of_cutWord hword).2
    split
    next =>
      split
      next => exact .fault _ none
      next inner rest' hinner =>
        split
        next => exact .fault _ none
        next =>
          have hrest' : HasPlainDigits rest' :=
            hrest.of_isInfix ((infix_of_cutWord hinner).2.trans (infix_trim rest))
          exact (numbersRead_readPlain inner hrest').map fun _ hi => hi
    next => exact numbersRead_readPlain word hrest

end Readers

/-! ## Logical lines -/

/-- The flags before a heredoc are stretches of the text. -/
theorem hasPlainDigits_of_writtenFlags? {cs marker : List Char} {flags : List (List Char)}
    (h : HasPlainDigits cs) (hflags : writtenFlags? cs = some (flags, marker)) :
    ∀ flag ∈ flags, HasPlainDigits flag := by
  fun_induction writtenFlags? cs generalizing flags with
  | case1 cs hstarts hflag => cases hflags
  | case2 cs hstarts f hflag hlt ih =>
    obtain ⟨htext, -, htail⟩ := hasPlainDigits_of_readFlag? h hflag
    obtain ⟨⟨flags, marker⟩, hrest, hpair⟩ := Option.map_eq_some_iff.mp hflags
    cases hpair
    rw [List.forall_mem_cons]
    exact ⟨htext, ih htail hrest⟩
  | case3 cs hstarts =>
    cases hflags
    exact fun _ hflag => (nomatch hflag)

/-- A body is put in line with blanks and line feeds between its parts, which join no digits. -/
theorem hasPlainDigits_inlineHeredoc {text body : List Char} (htext : HasPlainDigits text)
    (hbody : HasPlainDigits body) : HasPlainDigits (inlineHeredoc text body) := by
  unfold inlineHeredoc
  split
  next word rest hword =>
    obtain ⟨hstretch, hrest⟩ := infix_of_cutWord hword
    split
    next =>
      split
      next flags marker hflags =>
        dsimp only
        split
        next =>
          -- the keyword, the flags and the rows of the body, with blanks or line feeds between
          refine .join (by decide) ?_
          rw [List.cons_append, List.forall_mem_cons, List.forall_mem_append]
          refine ⟨htext.of_isInfix hstretch,
            hasPlainDigits_of_writtenFlags? (htext.of_isInfix hrest) hflags, ?_⟩
          intro script hscript
          rw [List.mem_singleton.mp hscript]
          refine .join (by decide) fun row hrow => ?_
          exact hbody.of_isInfix (infix_of_mem_splitAtChar (List.mem_filter.mp hrow).1)
        next => exact htext
      next => exact htext
    next => exact htext
  next => exact htext

/-- The text and the bodies of the logical line have plain digits. -/
structure LogicalLine.IsPlain (l : LogicalLine) : Prop where
  text : HasPlainDigits l.text
  bodies : ∀ body ∈ l.bodies, HasPlainDigits body

/-- **A logical line with plain digits** is read, or is faulty. -/
theorem LogicalLine.IsPlain.numbersRead {l : LogicalLine} (h : l.IsPlain) :
    NumbersRead Instruction.HasPlainOrigin l.instruction := by
  unfold LogicalLine.instruction
  split
  next => exact .ok trivial
  next =>
    split
    next body bodies hbodies =>
      have hbody := h.bodies body (by rw [hbodies]; exact List.mem_cons_self)
      exact numbersRead_readInstruction (hasPlainDigits_inlineHeredoc h.text hbody)
    next => exact numbersRead_readInstruction h.text

end ContainerLint.Dockerfile
