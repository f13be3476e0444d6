/-
What every instruction that is read can be relied on for.

The checks look into instructions without asking first: a copied file has a source, a port
has a number or a variable, a tag that is given is not empty. The readers take their text
trimmed, and to peel flags off its front leaves it trimmed. From there on each property is
one that a reader asks for, or one that it gets from how it cuts its text.
-/
import ContainerLint.Proofs.Dockerfile.Document
import ContainerLint.Proofs.Dockerfile.Image
import ContainerLint.Proofs.Dockerfile.Numbers
import ContainerLint.Proofs.Shell.Words

namespace ContainerLint.Dockerfile

open ContainerLint.Text

/-! ## Well-formed instructions -/

/-- The text of arguments in shell form is not empty, and no blanks surround it. -/
def Arguments.IsWellFormed : Arguments → Prop
  | .shell text => IsTrimmed text.toList
  | .exec _ => True

/-- No part of an image is given and empty, and the registry is the front of the image. -/
structure Image.IsWellFormed (i : Image) : Prop where
  tag : i.tag ≠ some ""
  digest : i.digest ≠ some ""
  stage : i.stage ≠ some ""
  platform : i.platform ≠ some ""
  registry : ∀ r ∈ i.registry, startsWith i.image (r ++ "/") = true

namespace Port

/-- The number of a port, or the first one of a range. -/
def number? (p : Port) : Option Nat :=
  match p.spec with
  | .number first _ => some first
  | .buildVariable _ => none

/-- The upper end of a range of ports. -/
def rangeEnd? (p : Port) : Option Nat :=
  match p.spec with
  | .number _ last => last
  | .buildVariable _ => none

/-- The build variable of a port. -/
def variableText? (p : Port) : Option String :=
  match p.spec with
  | .number _ _ => none
  | .buildVariable text => some text

/-- A port is a number or a variable and not both; only a number may start a range, and a
variable is a dollar sign with something behind it. -/
structure IsWellFormed (p : Port) : Prop where
  named : p.number?.isSome = !p.variableText?.isSome
  range : p.rangeEnd?.isSome = true → p.number?.isSome = true
  dollar : ∀ text ∈ p.variableText?, ∃ name, name ≠ [] ∧ text.toList = '$' :: name
  protocol : p.protocol.label ∈ ["tcp", "udp", "sctp"]

end Port

/-- There is a pair, and no pair has an empty key. -/
def ArePairs (pairs : List (String × String)) : Prop :=
  pairs ≠ [] ∧ ∀ pair ∈ pairs, pair.1 ≠ ""

/-- A letter or an underscore, then word characters, dots and dashes. -/
def IsArgName (name : List Char) : Prop :=
  ∃ c cs, name = c :: cs ∧ (c.isAlpha = true ∨ c = '_') ∧
    ∀ d ∈ cs, isWordChar d = true ∨ d = '.' ∨ d = '-'

/-- The instruction has all the parts that its kind asks for, and none of them is empty. An
instruction that is deferred is one itself, and neither a comment nor deferred again. -/
def Instruction.IsWellFormed : Instruction → Prop
  | .comment _ => True
  | .base image => image.IsWellFormed
  | .run arguments flags => arguments.IsWellFormed ∧
      ∀ m ∈ flags.mounts, m.type.label ∈ ["bind", "cache", "tmpfs", "secret", "ssh"]
  | .copy sources _ _ => sources ≠ []
  | .add sources _ _ => sources ≠ []
  | .env pairs => ArePairs pairs
  | .label pairs => ArePairs pairs
  | .expose ports => ports ≠ [] ∧ ∀ p ∈ ports, p.IsWellFormed
  | .arg name _ => IsArgName name.toList
  | .entrypoint arguments => arguments.IsWellFormed
  | .cmd arguments => arguments.IsWellFormed
  | .shell arguments => ∃ item items, arguments = .exec (item :: items)
  | .user name => IsTrimmed name.toList
  | .workdir path => IsTrimmed path.toList
  | .volume _ => True
  | .maintainer name => IsTrimmed name.toList
  | .stopSignal signal => IsTrimmed signal.toList
  | .healthcheck check => ∀ command ∈ check, command.arguments.IsWellFormed
  | .onBuild inner => (∀ text, inner ≠ .comment text) ∧ (∀ i, inner ≠ .onBuild i) ∧
      inner.IsWellFormed

/-! ## Parts that several readers share -/

theorem ofList_ne_empty {cs : List Char} (h : cs ≠ []) : String.ofList cs ≠ "" := by
  intro hempty
  exact h (by simpa using congrArg String.toList hempty)

/-- Behind the flags, a trimmed text is trimmed. -/
theorem ensures_splitFlags (keyword : String) (allowed : List String) {cs : List Char}
    (h : trim cs = cs) :
    Ensures (fun r => trim r.2 = r.2) (splitFlags keyword allowed cs) := by
  fun_induction splitFlags keyword allowed cs with
  | case1 => exact .error _
  | case2 cs hstarts f hflag name hallowed hlt flags rest hrest ih =>
    have hback : f.rest <:+ cs := append_of_readFlag? hflag ▸ List.suffix_append f.text f.rest
    have hrest' := ih (trim_trimLeft_of_suffix h hback) (flags, rest) hrest
    exact .ok hrest'
  | case3 => exact .error _
  | case4 => exact .error _
  | case5 => exact .ok h

section Readers

variable {rest : List Char}

theorem isTrimmed_of_ne_nil (h : trim rest = rest) (hne : rest ≠ []) : IsTrimmed rest :=
  (trim_eq_self_iff.mp h).resolve_left hne

/-- A text that has to be there begins and ends with ink. -/
theorem ensures_requireText (h : trim rest = rest) (keyword : String) :
    Ensures (fun text => IsTrimmed text.toList) (requireText keyword rest) := by
  unfold requireText
  split
  next => exact .error _
  next hne =>
    refine .ok ?_
    rw [String.toList_ofList]
    exact isTrimmed_of_ne_nil h (by simpa using hne)

/-- Arguments are a list, or a text that begins and ends with ink. -/
theorem ensures_readArguments (h : trim rest = rest) (keyword : String) :
    Ensures Arguments.IsWellFormed (readArguments keyword rest) := by
  unfold readArguments
  split
  next => exact .error _
  next hne =>
    split
    next => exact .ok trivial
    next =>
      refine .ok ?_
      rw [Arguments.IsWellFormed, String.toList_ofList]
      exact isTrimmed_of_ne_nil h (by simpa using hne)

/-- There is something to copy besides the place to copy it to. -/
theorem ensures_readPaths (keyword : String) (rest : List Char) :
    Ensures (fun paths => paths.1 ≠ []) (readPaths keyword rest) := by
  have hpaths : ∀ paths, Ensures (fun r => r.1 ≠ []) (splitPaths keyword paths) := by
    intro paths
    unfold splitPaths
    split
    next => exact .error _
    next => exact .ok (List.cons_ne_nil _ _)
    next destination sources hone hpaths =>
      refine .ok fun hnil => hone ?_
      rw [List.reverse_eq_nil_iff.mp hnil]
  refine (Ensures.trivially (readArguments keyword rest)).bind fun arguments _ => ?_
  cases arguments with
  | exec items => exact hpaths items
  | shell text => exact (Ensures.trivially _).bind fun _ _ => hpaths _

/-- A pair has a name. -/
theorem ensures_readPair (keyword : String) (word : List Char) :
    Ensures (fun pair => pair.1 ≠ "") (readPair keyword word) := by
  unfold readPair
  split
  next => exact .ok (ofList_ne_empty (List.cons_ne_nil _ _))
  next => exact .error _

/-- There is a pair, and every pair has a name, in the old form also. -/
theorem ensures_readPairs (h : trim rest = rest) (keyword : String) :
    Ensures ArePairs (readPairs keyword rest) := by
  unfold readPairs
  split
  next => exact .error _
  next first more hfirst =>
    have hne : rest ≠ [] := by
      rintro rfl
      cases hfirst
    obtain ⟨⟨c, hc, hblank⟩, -⟩ := isTrimmed_of_ne_nil h hne
    obtain ⟨cs, rfl⟩ := List.head?_eq_some_iff.mp hc
    split
    next =>
      have hwords : Ensures (· ≠ []) (readWords keyword (c :: cs)) := by
        unfold readWords
        split
        next ws hws =>
          refine .ok (Shell.splitWords_ne_nil (Bool.eq_false_iff.mpr fun hseparator => ?_) hws)
          rw [Shell.isBlank_of_isSeparator hseparator] at hblank
          cases hblank
        next => exact .error _
      refine hwords.bind fun ws hws => ?_
      have hpairs := Ensures.mapM fun word (_ : word ∈ ws) => ensures_readPair keyword word
      intro pairs hread
      obtain ⟨hlength, hkeys⟩ := hpairs pairs hread
      have hpos : 0 < ws.length := List.length_pos_of_ne_nil hws
      exact ⟨List.length_pos_iff.mp (by omega), hkeys⟩
    next =>
      -- the key ends at a space, and the text does not start with one
      have hspace : c ≠ ' ' := by
        rintro rfl
        cases hblank
      refine .ok ⟨List.cons_ne_nil _ _, List.forall_mem_singleton.mpr (ofList_ne_empty ?_)⟩
      cases hcut : cutAt ' ' cs <;> simp [cutAt, hspace, hcut]

/-! ## The readers, one per keyword -/

/-- An image is well formed however its reference is cut. -/
theorem Image.isWellFormed_ofReference (reference : String) {stage platform : Option String}
    (hstage : stage ≠ some "") (hplatform : platform ≠ some "") :
    (Image.ofReference reference stage platform).IsWellFormed := by
  have hnonEmpty : ∀ cs, Image.nonEmpty cs ≠ some "" := by
    intro cs
    unfold Image.nonEmpty
    split
    next => simp
    next hne => exact fun hsome => ofList_ne_empty (by simpa using hne) (Option.some.inj hsome)
  refine ⟨hnonEmpty _, hnonEmpty _, hstage, hplatform, fun r hr => ?_⟩
  obtain ⟨-, name, hname⟩ := Image.registryOf_eq_some hr
  have hfront : r.toList ++ ['/'] <+: r.toList ++ '/' :: name := by simp
  simpa [Image.ofReference, startsWith] using hname ▸ hfront

/-- The instruction is the one of its keyword and well formed. -/
def ReadsAs (keyword : String) (i : Instruction) : Prop :=
  i.keyword = keyword ∧ i.IsWellFormed

/-- `FROM` names an image, and no empty stage or platform. -/
theorem ensures_readFrom (h : trim rest = rest) : Ensures (ReadsAs "FROM") (readFrom rest) := by
  refine (ensures_splitFlags _ _ h).bind fun r _ => .guard fun hvalues => ?_
  -- the guard has refused flags with an empty value
  have hplatform : r.1.getLast?.bind (·.2) ≠ some "" := by
    intro hsome
    obtain ⟨flag, hflag, hvalue⟩ := Option.bind_eq_some_iff.mp hsome
    refine hvalues (List.any_eq_true.mpr ⟨flag, List.mem_of_getLast? hflag, ?_⟩)
    simp [hvalue]
  dsimp only
  split
  next => exact .error _
  next => exact .ok ⟨rfl, Image.isWellFormed_ofReference _ (by simp) hplatform⟩
  next image word stage hwords =>
    have hmem : stage ∈ words r.2 := by simp [hwords]
    have hname : some (String.ofList stage) ≠ some "" := by simpa using ne_nil_of_mem_words hmem
    split
    next => exact .ok ⟨rfl, Image.isWellFormed_ofReference _ hname hplatform⟩
    next => exact .error _
  next => exact .error _

theorem ensures_readRun (h : trim rest = rest) : Ensures (ReadsAs "RUN") (readRun rest) := by
  refine (ensures_splitFlags _ _ h).bind fun r hr => ?_
  refine (Ensures.trivially _).bind fun mounts _ => ?_
  refine (ensures_readArguments hr _).bind fun arguments harguments => .ok ?_
  refine ⟨rfl, harguments, fun m _ => ?_⟩
  cases m.type <;> decide

theorem ensures_readCopy (h : trim rest = rest) : Ensures (ReadsAs "COPY") (readCopy rest) := by
  refine (ensures_splitFlags _ _ h).bind fun r _ => ?_
  exact (ensures_readPaths _ _).bind fun paths hpaths => .ok ⟨rfl, hpaths⟩

theorem ensures_readAdd (h : trim rest = rest) : Ensures (ReadsAs "ADD") (readAdd rest) := by
  refine (ensures_splitFlags _ _ h).bind fun r _ => ?_
  exact (ensures_readPaths _ _).bind fun paths hpaths => .ok ⟨rfl, hpaths⟩

/-- A variable has a name after its dollar. -/
theorem Port.exists_of_buildVariable? {cs name : List Char} {protocol : Option (List Char)}
    (h : Port.buildVariable? cs = some (name, protocol)) :
    ∃ back, back ≠ [] ∧ name = '$' :: back := by
  unfold Port.buildVariable? at h
  split at h
  next c cs =>
    split at h
    next d front back hcut =>
      split at h
      next =>
        cases h
        exact ⟨d :: front, List.cons_ne_nil _ _, rfl⟩
      next =>
        cases h
        exact ⟨c :: cs, List.cons_ne_nil _ _, rfl⟩
    next =>
      cases h
      exact ⟨c :: cs, List.cons_ne_nil _ _, rfl⟩
  next => cases h

/-- A port is a number, a range or a variable, under one of three protocols. -/
theorem Port.ensures_ofWord (cs : List Char) : Ensures Port.IsWellFormed (Port.ofWord cs) := by
  have hlabel : ∀ protocol : Protocol, protocol.label ∈ ["tcp", "udp", "sctp"] := by
    intro protocol
    cases protocol <;> decide
  unfold Port.ofWord
  split
  next parts hparts =>
    refine (Ensures.trivially _).bind fun first _ => (Ensures.trivially _).bind fun last _ => ?_
    refine (Ensures.trivially _).bind fun protocol _ => .ok ?_
    exact ⟨rfl, fun _ => rfl, fun text htext => absurd htext (by simp [Port.variableText?]),
      hlabel protocol⟩
  next =>
    split
    next name protocol hname =>
      refine (Ensures.trivially _).bind fun protocol _ => .ok ?_
      refine ⟨rfl, fun hrange => absurd hrange (by simp [Port.rangeEnd?]), ?_, hlabel protocol⟩
      intro text htext
      obtain rfl := Option.some.inj htext
      rw [String.toList_ofList]
      exact Port.exists_of_buildVariable? hname
    next => exact .error _

/-- `EXPOSE` has well-formed ports. -/
theorem ensures_readExpose (h : trim rest = rest) :
    Ensures (ReadsAs "EXPOSE") (readExpose rest) := by
  refine (ensures_requireText h _).bind fun text htext => ?_
  refine (Ensures.mapM fun word _ => Port.ensures_ofWord word).bind fun ports hports => .ok ?_
  refine ⟨rfl, ?_, hports.2⟩
  have hwords : 0 < (words text.toList).length := List.length_pos_of_ne_nil (words_ne_nil htext.1)
  exact List.length_pos_iff.mp (hports.1 ▸ hwords)

theorem isArgName_of_eq_true {name : List Char} (h : isArgName name = true) : IsArgName name := by
  obtain ⟨c, cs, hname, hc, hcs⟩ := isName_iff.mp h
  simp only [Bool.or_eq_true, beq_iff_eq, Marker.isMarkerChar, or_assoc] at hc hcs
  exact ⟨c, cs, hname, hc, hcs⟩

/-- `ARG` declares a name. -/
theorem ensures_readArg (rest : List Char) : Ensures (ReadsAs "ARG") (readArg rest) := by
  have hguard : ∀ (name : List Char) (default : Option String), Ensures (ReadsAs "ARG")
      (if isArgName name then .ok (.arg (String.ofList name) default)
        else fail (.invalidArgName (String.ofList name))) := by
    intro name default
    split
    next hname =>
      refine .ok ⟨rfl, ?_⟩
      rw [Instruction.IsWellFormed, String.toList_ofList]
      exact isArgName_of_eq_true hname
    next => exact .error _
  refine (Ensures.trivially _).bind fun text _ => ?_
  dsimp only
  split <;> exact hguard _ _

theorem ensures_readShell (rest : List Char) : Ensures (ReadsAs "SHELL") (readShell rest) := by
  refine (Ensures.trivially _).bind fun arguments _ => ?_
  split
  next item items => exact .ok ⟨rfl, item, items, rfl⟩
  next => exact .error _

/-- `HEALTHCHECK` has a command, unless it is `NONE`. -/
theorem ensures_readHealthcheck (rest : List Char) :
    Ensures (ReadsAs "HEALTHCHECK") (readHealthcheck rest) := by
  refine (Ensures.trivially _).bind fun text _ => ?_
  split
  next => exact .ok ⟨rfl, fun command hcommand => absurd hcommand (by simp)⟩
  next =>
    refine (Ensures.trivially _).bind fun r _ => .guard fun _ => .guard fun _ => ?_
    refine (ensures_readArguments (trim_trim _) _).bind fun arguments harguments => ?_
    refine (Ensures.trivially _).bind fun count _ => .ok ⟨rfl, fun command hcommand => ?_⟩
    obtain rfl := Option.some.inj hcommand
    exact harguments

/-- **A reader reads the instruction of its keyword**, and what it reads is well formed. -/
theorem ensures_of_reader? (h : trim rest = rest) {keyword : String} {reader : ArgumentReader}
    (hreader : reader? keyword = some reader) : Ensures (ReadsAs keyword) (reader rest) := by
  unfold reader? at hreader
  split at hreader
  -- one case for each keyword, in the order of the table
  all_goals cases hreader
  · exact ensures_readFrom h
  · exact ensures_readRun h
  · exact ensures_readCopy h
  · exact ensures_readAdd h
  · exact (ensures_readPairs h _).map fun _ hpairs => ⟨rfl, hpairs⟩
  · exact (ensures_readPairs h _).map fun _ hpairs => ⟨rfl, hpairs⟩
  · exact ensures_readExpose h
  · exact ensures_readArg rest
  · exact (ensures_readArguments h _).map fun _ harguments => ⟨rfl, harguments⟩
  · exact (ensures_readArguments h _).map fun _ harguments => ⟨rfl, harguments⟩
  · exact ensures_readShell rest
  · exact (ensures_requireText h _).map fun _ htext => ⟨rfl, htext⟩
  · exact (ensures_requireText h _).map fun _ htext => ⟨rfl, htext⟩
  · exact (Ensures.trivially _).bind fun _ _ => .ok ⟨rfl, trivial⟩
  · exact (ensures_requireText h _).map fun _ htext => ⟨rfl, htext⟩
  · exact (ensures_requireText h _).map fun _ htext => ⟨rfl, htext⟩
  · exact ensures_readHealthcheck rest

/-- Under any keyword the instruction is well formed and is the keyword's own. -/
theorem ensures_readPlain (word rest : List Char) :
    Ensures (ReadsAs (upper (String.ofList word))) (readPlain word rest) := by
  unfold readPlain
  split
  next reader hreader => exact ensures_of_reader? (trim_trim rest) hreader
  next => exact .error _

end Readers

/-! ## Documents -/

/-- Nothing is read as a comment, as no reader has its sign for a keyword. -/
theorem readPlain_ne_comment {word rest : List Char} {i : Instruction}
    (h : readPlain word rest = .ok i) (text : String) : i ≠ .comment text := by
  rintro rfl
  have hkeyword : "#" = upper (String.ofList word) := (ensures_readPlain word rest _ h).1
  rw [readPlain, ← hkeyword] at h
  cases h

/-- Instructions are well formed, and none is put off twice. -/
theorem ensures_readInstruction (text : List Char) :
    Ensures Instruction.IsWellFormed (readInstruction text) := by
  unfold readInstruction
  split
  next => exact .error _
  next word rest hword =>
    split
    next =>
      split
      next => exact .error _
      next inner rest' hinner =>
        split
        next => exact .error _
        next honbuild =>
          intro i hi
          obtain ⟨i, hread, rfl⟩ := map_eq_ok_iff.mp hi
          obtain ⟨hkeyword, hwell⟩ := ensures_readPlain inner rest' i hread
          refine ⟨readPlain_ne_comment hread, ?_, hwell⟩
          rintro j rfl
          exact honbuild (beq_iff_eq.mpr hkeyword.symm)
    next =>
      intro i hi
      exact (ensures_readPlain word rest i hi).2

/-- What a logical line is read as is well formed. -/
theorem LogicalLine.ensures_instruction (l : LogicalLine) :
    Ensures Instruction.IsWellFormed l.instruction := by
  unfold LogicalLine.instruction
  split
  next => exact .ok trivial
  next => split <;> exact ensures_readInstruction _

/-- **Every instruction of a document that can be read is well formed.** -/
theorem isWellFormed_of_parse {text : String} {entries : List Positioned}
    (h : parse text = .ok entries) : ∀ p ∈ entries, p.instruction.IsWellFormed := by
  intro p hp
  obtain ⟨lines, -, hlines⟩ := parse_eq_ok_iff.mp h
  obtain ⟨l, -, hl⟩ := exists_of_mem_right hlines hp
  exact l.ensures_instruction _ (positioned_eq_ok_iff.mp hl).1

/-- A document with what may be left empty left so, and with a deferred instruction. -/
def deferringText : String :=
  "# a\nFROM --platform=b c:5000/d:@ AS e\nONBUILD RUN --mount=type=ssh f\nEXPOSE $g/UDP 1-2\nENV h"

/-- The instructions of `deferringText`. -/
def deferringEntries : List Positioned := [
  ⟨.comment "a", 1, "# a"⟩,
  ⟨.base {
      image := "c:5000/d"
      stage := some "e"
      platform := some "b"
      registry := some "c:5000" }, 2, "FROM --platform=b c:5000/d:@ AS e"⟩,
  ⟨.onBuild (.run (.shell "f") { mounts := [{ type := .ssh }] }), 3,
    "ONBUILD RUN --mount=type=ssh f"⟩,
  ⟨.expose [⟨.buildVariable "$g", .udp⟩, ⟨.number 1 (some 2), .tcp⟩], 4, "EXPOSE $g/UDP 1-2"⟩,
  ⟨.env [("h", "")], 5, "ENV h"⟩]

theorem isWellFormed_of_parse_deferring :
    parse deferringText = .ok deferringEntries ∧
      ∀ p ∈ deferringEntries, p.instruction.IsWellFormed := by
  have hparse : parse deferringText = .ok deferringEntries := by decide +kernel
  exact ⟨hparse, isWellFormed_of_parse hparse⟩

end ContainerLint.Dockerfile
