/-
Scripts in heredocs.

A RUN instruction of flags and one heredoc marker has the heredoc for its script: the lines
of the body that are neither blank nor comments. The script is put in the marker's place, and
the text that comes of it is read as any other RUN instruction. So it is read as a script
only if it can be told from what else may stand there. Where its first characters are those
of a flag, the flags go on in it, and where the whole of it is an array of texts, it is read
in exec form. Nothing else in it matters.
-/
import ContainerLint.Proofs.Dockerfile.BlankLine
import ContainerLint.Proofs.Dockerfile.ScriptHeader

namespace ContainerLint.Dockerfile

open ContainerLint.Text

/-! ## The lines of a script -/

namespace Marker

/-- A line of a body loses tabs at most. -/
theorem mem_of_mem_bodyLine {m : Marker} {raw : List Char} {c : Char} (h : c ∈ m.bodyLine raw) :
    c ∈ raw := by
  rw [bodyLine] at h
  split at h
  · exact (List.dropWhile_suffix _).subset h
  · exact h

/-- Only blanks are taken off a line of a body. -/
theorem exists_append_bodyLine (m : Marker) (raw : List Char) :
    ∃ tabs, allBlank tabs = true ∧ raw = tabs ++ m.bodyLine raw := by
  rw [bodyLine]
  split
  · refine ⟨raw.takeWhile (· == '\t'), List.all_eq_true.mpr fun c hc => ?_,
      List.takeWhile_append_dropWhile.symm⟩
    have htab := List.mem_takeWhile_imp hc
    rw [beq_iff_eq.mp htab]
    decide
  · exact ⟨[], rfl, rfl⟩

/-- A line is blank in the body if it was before. -/
theorem allBlank_bodyLine_eq (m : Marker) (raw : List Char) :
    allBlank (m.bodyLine raw) = allBlank raw := by
  obtain ⟨tabs, htabs, hraw⟩ := m.exists_append_bodyLine raw
  have hsplit : allBlank (tabs ++ m.bodyLine raw) = (allBlank tabs && allBlank (m.bodyLine raw)) :=
    List.all_append
  rw [← hraw, htabs, Bool.true_and] at hsplit
  exact hsplit.symm

/-- A line is a comment in the body if it was before. -/
theorem isCommentLine_bodyLine (m : Marker) (raw : List Char) :
    isCommentLine (m.bodyLine raw) = isCommentLine raw := by
  obtain ⟨tabs, htabs, hraw⟩ := m.exists_append_bodyLine raw
  have htrim : trim (tabs ++ m.bodyLine raw) = trim (m.bodyLine raw) := by
    rw [trim, dropEnds, dropFront, List.dropWhile_append_of_pos (List.all_eq_true.mp htabs)]
    rfl
  rw [← hraw] at htrim
  rw [isCommentLine, isCommentLine, htrim]

end Marker

/-- A script in a heredoc of a document, with the lines around it. -/
structure HeredocScript (text : String) where
  header : ScriptHeader
  above : List (List Char)
  /-- The lines of the header. -/
  lines : List (List Char)
  /-- The lines of the body. -/
  body : List (List Char)
  closing : List Char
  below : List (List Char)
  physicalLines_eq : physicalLines text = above ++ (lines ++ (body ++ closing :: below))
  walk_above : (Assembly.idle.walk 1 above).1 = .idle
  laysOut : LaysOut lines header.text
  body_open : ∀ raw ∈ body, header.marker.closes raw = false
  closing_closes : header.marker.closes closing = true
  /-- Not all lines are blank or comments. -/
  exists_command : ∃ raw ∈ body, allBlank raw = false ∧ isCommentLine raw = false

namespace HeredocScript

variable {text : String} (s : HeredocScript text)

/-- The lines of the body that are neither blank nor comments, without their tabs if the
marker says so. -/
def commands : List (List Char) :=
  (s.body.map s.header.marker.bodyLine).filter fun row => !allBlank row && !isCommentLine row

/-- The script. -/
def script : List Char :=
  trim (join ['\n'] s.commands)

/-- The entry of a RUN instruction with the flags of the header. -/
def entry (arguments : Arguments) : Positioned where
  instruction := .run arguments s.header.runFlags
  line := s.above.length + 1
  source := String.ofList (join ['\n'] (s.lines ++ (s.body ++ [s.closing])))

/-- The logical line of the script. -/
def logicalLine : LogicalLine :=
  ⟨s.above.length + 1, s.header.text, s.lines ++ (s.body ++ [s.closing]),
    [join ['\n'] (s.body.map s.header.marker.bodyLine)]⟩

/-- The number of the line below the script. -/
def next : Nat :=
  s.above.length + s.lines.length + s.body.length + 2

/-- The lines of the file are those above, the script's and those below. -/
theorem logicalLines_eq : logicalLines (physicalLines text) =
    (Assembly.idle.walk 1 s.above).2.map .ok ++
      .ok s.logicalLine :: Assembly.idle.run s.next s.below := by
  have hbody : TakeBodies [s.header.marker] (s.body ++ [s.closing])
      [join ['\n'] (s.body.map s.header.marker.bodyLine)] :=
    .body s.body_open s.closing_closes .none
  have hnumber : 1 + s.above.length + s.lines.length + (s.body ++ [s.closing]).length = s.next := by
    rw [next, List.length_append, List.length_singleton]
    omega
  have hlines : s.body ++ s.closing :: s.below = (s.body ++ [s.closing]) ++ s.below := by simp
  rw [s.physicalLines_eq, logicalLines, Assembly.run_append, s.walk_above, s.laysOut.run,
    s.header.markersOf_text, hlines, Assembly.runFrom_of_takeBodies hbody, hnumber,
    List.reverse_reverse, Nat.add_comm 1]
  rfl

/-- Entries of the document that are known around the script leave only its own open. -/
theorem parse_eq_ok_iff {as bs : List Positioned} {p : Positioned}
    (has : entriesFrom 1 s.above = .ok as) (hbs : entriesFrom s.next s.below = .ok bs) :
    parse text = .ok (as ++ p :: bs) ↔ s.logicalLine.positioned = .ok p := by
  have habove : List.Forall₂ (fun l p => LogicalLine.positioned l = .ok p)
      (Assembly.idle.walk 1 s.above).2 as := by
    rw [entriesFrom, Assembly.run_eq_walk, s.walk_above, Assembly.finish, List.append_nil,
      mapM_bind_eq_ok_iff] at has
    obtain ⟨entries, hentries, has⟩ := has
    obtain rfl := (List.map_inj_right fun _ _ => Except.ok.inj).mp hentries
    exact has
  rw [parse_eq_ok_iff_of_logicalLines s.logicalLines_eq]
  constructor
  · rintro ⟨as', q, bs', hxs, has', hq, -⟩
    have hlength : as.length = as'.length := habove.length_eq.symm.trans has'.length_eq
    obtain ⟨-, hrest⟩ := List.append_inj hxs hlength
    rwa [(List.cons.inj hrest).1]
  · intro hp
    exact ⟨as, p, bs, rfl, habove, hp, hbs⟩

/-! ## The script as it is read -/

/-- There is something to run. -/
theorem commands_ne_nil : s.commands ≠ [] := by
  obtain ⟨raw, hraw, hblank, hcomment⟩ := s.exists_command
  refine List.ne_nil_of_mem (List.mem_filter.mpr ⟨List.mem_map_of_mem hraw, ?_⟩)
  rw [Marker.allBlank_bodyLine_eq, Marker.isCommentLine_bodyLine, hblank, hcomment]
  rfl

/-- The script is the commands of the body, without its blank lines and comments. -/
theorem scriptOf_body :
    scriptOf (join ['\n'] (s.body.map s.header.marker.bodyLine)) = join ['\n'] s.commands := by
  have hfeed : ∀ row ∈ s.body.map s.header.marker.bodyLine, '\n' ∉ row := by
    intro row hrow hmem
    obtain ⟨raw, hraw, rfl⟩ := List.mem_map.mp hrow
    have hline : raw ∈ physicalLines text := by
      rw [s.physicalLines_eq]
      simp [hraw]
    exact (not_mem_of_mem_physicalLines hline).1 (Marker.mem_of_mem_bodyLine hmem)
  have hne : s.body.map s.header.marker.bodyLine ≠ [] := by
    obtain ⟨raw, hraw, -⟩ := s.exists_command
    exact List.ne_nil_of_mem (List.mem_map_of_mem hraw)
  rw [scriptOf, splitAtChar_join hfeed hne, commands]

/-- The script is not blank. -/
theorem allBlank_join_commands : allBlank (join ['\n'] s.commands) = false := by
  obtain ⟨row, rows, hrows⟩ := List.exists_cons_of_ne_nil s.commands_ne_nil
  have hrow : row ∈ s.commands := hrows ▸ List.mem_cons_self
  have hblank : allBlank row = false := by
    have hkept := (List.mem_filter.mp hrow).2
    rw [Bool.and_eq_true, Bool.not_eq_true'] at hkept
    exact hkept.1
  have hfront : ∃ back, join ['\n'] (row :: rows) = row ++ back := by
    cases rows with
    | nil => exact ⟨[], (List.append_nil row).symm⟩
    | cons next rows => exact ⟨_, List.append_assoc _ _ _⟩
  obtain ⟨back, hback⟩ := hfront
  rw [hrows, hback, allBlank, List.all_append, ← allBlank, hblank, Bool.false_and]

theorem script_ne_nil : s.script ≠ [] :=
  (isTrimmed_trim s.allBlank_join_commands).ne_nil

/-- The text behind the keyword, once the script has taken the marker's place. -/
def pasted : List Char :=
  trimLeft (s.header.flags.flatMap (fun f => f.text ++ [' ']) ++ trimRight (join ['\n'] s.commands))

/-- The flags of the header are the first of the pasted text, and the script may bring more. -/
theorem splitFlags_pasted (keyword : String) :
    splitFlags keyword runFlagNames s.pasted =
      (splitFlags keyword runFlagNames s.script).map fun (more, rest) =>
        (s.header.flags.map WrittenFlag.flag ++ more, rest) := by
  rw [pasted, splitFlags_append s.header.isValid, trimLeft_trimRight, script]

/-- **The script is read behind the flags**, as the rest of a RUN instruction. -/
theorem instruction_logicalLine : s.logicalLine.instruction = readRun s.pasted := by
  obtain ⟨hne, hkeyword⟩ := of_upper_eq_run s.header.isRun
  obtain ⟨c, cs, hcs⟩ := List.exists_cons_of_ne_nil hne
  have hsign : ∀ rest, s.header.text ≠ '#' :: rest := by
    intro rest hrest
    rw [ScriptHeader.text, hcs] at hrest
    exact (hkeyword c (hcs ▸ List.mem_cons_self)).2.2 (List.cons.inj hrest).1
  have hscript : scriptOf (join ['\n'] (s.body.map s.header.marker.bodyLine)) ≠ [] := by
    rw [s.scriptOf_body]
    intro hnil
    have hblank := s.allBlank_join_commands
    rw [hnil] at hblank
    cases hblank
  have hread : s.logicalLine.instruction = readInstruction (inlineHeredoc s.header.text
      (join ['\n'] (s.body.map s.header.marker.bodyLine))) := by
    unfold LogicalLine.instruction
    split
    next rest hrest => exact absurd hrest (hsign rest)
    next => rfl
  have hcut := @cutWord_append s.header.keyword
    (' ' :: (s.header.flags.flatMap (fun f => f.text ++ [' ']) ++ join ['\n'] s.commands)) hne
    (fun c hc => (hkeyword c hc).1) fun c hc => by cases hc; decide
  have hspace : ∀ cs, trim (trimLeft (' ' :: cs)) = trim cs := fun cs =>
    trim_trimLeft cs
  -- blanks at the back are the script's own, those at its front are left to the flags
  rw [hread, s.header.inlineHeredoc_text hscript, s.scriptOf_body]
  simp only [readInstruction, hcut, s.header.isRun, readPlain, reader?, hspace]
  rw [← trimLeft_trimRight, trimRight_append s.allBlank_join_commands]
  rfl

/-- Where no flag starts the script, the flags are those of the header. -/
theorem readRun_pasted (hflag : startsFlag s.script = false) :
    readRun s.pasted =
      (readArguments "RUN" s.script).map fun arguments => .run arguments s.header.runFlags := by
  have hsplit : splitFlags "RUN" runFlagNames s.pasted =
      .ok (s.header.flags.map WrittenFlag.flag, s.script) := by
    have hscript : splitFlags "RUN" runFlagNames s.script = .ok ([], s.script) := by
      rw [splitFlags, if_neg (by simp [hflag])]
    rw [s.splitFlags_pasted, hscript]
    simp [Except.map]
  have hread : readRun s.pasted =
      (splitFlags "RUN" runFlagNames s.pasted >>= fun r => readMounts r.1 >>= fun mounts =>
        readArguments "RUN" r.2 >>= fun arguments => .ok (.run arguments
          { mounts := mounts
            network := flagText? r.1 "network"
            security := flagText? r.1 "security" })) := rfl
  have hmounts := s.header.readMounts_eq
  rw [hread, hsplit]
  simp only [bind, Except.bind, hmounts]
  cases readArguments "RUN" s.script <;> rfl

/-- Where a flag starts the script, some of it is lost to the flags. -/
theorem readRun_pasted_ne (hflag : startsFlag s.script = true) (flags : RunFlags) :
    readRun s.pasted ≠ .ok (.run (.shell (String.ofList s.script)) flags) := by
  intro hread
  obtain ⟨r, hr, hread⟩ := bind_eq_ok_iff.mp hread
  obtain ⟨mounts, -, hread⟩ := bind_eq_ok_iff.mp hread
  obtain ⟨arguments, harguments, hread⟩ := bind_eq_ok_iff.mp hread
  have hshell : arguments = .shell (String.ofList s.script) :=
    (Instruction.run.inj (Except.ok.inj hread)).1
  have hrest : r.2 = s.script := by
    rw [hshell, readArguments] at harguments
    split at harguments
    · cases harguments
    · split at harguments
      · cases harguments
      · exact String.ofList_injective (Arguments.shell.inj (Except.ok.inj harguments))
  have hsplit : splitFlags "RUN" runFlagNames s.pasted = .ok r := hr
  rw [s.splitFlags_pasted, map_eq_ok_iff] at hsplit
  obtain ⟨q, hq, rfl⟩ := hsplit
  -- the text that is left would have to be as long as the script
  have hlt := (ensures_shorter_splitFlags _ _ _ q hq).2 hflag
  have hlength : q.2.length = s.script.length := congrArg List.length hrest
  omega

/-- The script is run by a shell unless it is itself written as an array. -/
theorem readArguments_eq_shell_iff : readArguments "RUN" s.script =
    .ok (.shell (String.ofList s.script)) ↔ ExecForm.read? s.script = none := by
  rw [readArguments, if_neg (by simpa using s.script_ne_nil)]
  cases ExecForm.read? s.script <;> simp

theorem readArguments_eq_exec {items : List String} (h : ExecForm.read? s.script = some items) :
    readArguments "RUN" s.script = .ok (.exec items) := by
  rw [readArguments, if_neg (by simpa using s.script_ne_nil), h]

/-- What the script is read as decides about the whole instruction. -/
theorem instruction_eq_ok_iff (arguments : Arguments) (hflag : startsFlag s.script = false) :
    s.logicalLine.instruction = .ok (.run arguments s.header.runFlags) ↔
      readArguments "RUN" s.script = .ok arguments := by
  rw [s.instruction_logicalLine, s.readRun_pasted hflag, map_eq_ok_iff]
  constructor
  · rintro ⟨found, hfound, hrun⟩
    rw [hfound, (Instruction.run.inj hrun).1]
  · intro hread
    exact ⟨arguments, hread, rfl⟩

theorem positioned_eq_entry_iff (arguments : Arguments) :
    s.logicalLine.positioned = .ok (s.entry arguments) ↔
      s.logicalLine.instruction = .ok (.run arguments s.header.runFlags) := by
  rw [positioned_eq_ok_iff]
  exact and_iff_left ⟨rfl, rfl⟩

end HeredocScript

/-- **A heredoc is the script of its RUN instruction if it can be told from other arguments.**
The instruction has the flags of the header and the script, whatever the script says, exactly
if no flag starts the script and it is no array of texts. An array is read in exec form, with
the flags of the header all the same. -/
theorem parse_heredocScript {text : String} (s : HeredocScript text) {as bs : List Positioned}
    (has : entriesFrom 1 s.above = .ok as) (hbs : entriesFrom s.next s.below = .ok bs) :
    (parse text = .ok (as ++ s.entry (.shell (String.ofList s.script)) :: bs) ↔
      startsFlag s.script = false ∧ ExecForm.read? s.script = none) ∧
    ∀ items, startsFlag s.script = false → ExecForm.read? s.script = some items →
      parse text = .ok (as ++ s.entry (.exec items) :: bs) := by
  simp only [s.parse_eq_ok_iff has hbs, s.positioned_eq_entry_iff]
  constructor
  · cases hflag : startsFlag s.script with
    | true =>
      rw [s.instruction_logicalLine]
      exact iff_of_false (s.readRun_pasted_ne hflag _) (by simp)
    | false => simp only [s.instruction_eq_ok_iff _ hflag, s.readArguments_eq_shell_iff, true_and]
  · intro items hflag hitems
    exact (s.instruction_eq_ok_iff _ hflag).mpr (s.readArguments_eq_exec hitems)

/-- A header over two lines, with a flag of each kind of name and a marker in quotes. -/
def mountingHeader : ScriptHeader where
  keyword := "run".toList
  gap := [' ']
  flags := [⟨"Network".toList, some "none".toList, [' ']⟩,
    ⟨"mount".toList, some "type=ssh".toList, [' ', '\t']⟩]
  mounts := [{ type := .ssh }]
  stripTabs := true
  quote := ['"']
  word := ['E']
  isRun := by decide +kernel
  isGap := by decide
  isValid := by
    have hvalue : ∀ v : List Char, v.all (!isBlank ·) = true →
        ∀ w ∈ some v, ∀ c ∈ w, isBlank c = false := by
      rintro v hv w ⟨⟩ c hc
      simpa using List.all_eq_true.mp hv c hc
    rw [List.forall_mem_cons, List.forall_mem_singleton]
    exact ⟨⟨by decide +kernel, by decide +kernel, hvalue _ (by decide), by decide +kernel⟩,
      by decide +kernel, by decide +kernel, hvalue _ (by decide), by decide +kernel⟩
  areSpaced := ⟨by decide, by decide, by decide, by decide, trivial⟩
  readMounts_eq := by decide +kernel
  isQuote := by decide
  isWord := by decide +kernel

/-- A document with that header, and a script with an empty line, a comment and what looks
like a flag behind its first command. -/
def mountingText : String :=
  "USER a\nrun --Network=none \\\n  --mount=type=ssh \t<<-\"E\"\n\t# b\n\n\t c\n\t--d\n\tE \nUSER e"

theorem laysOut_mountingHeader :
    LaysOut ["run --Network=none \\".toList, "  --mount=type=ssh \t<<-\"E\"".toList]
      mountingHeader.text := by
  have hparts : IsPart "run --Network=none ".toList ∧
      IsPart "  --mount=type=ssh \t<<-\"E\"".toList :=
    ⟨⟨by decide, by decide⟩, by decide, by decide⟩
  have hlaid := @LaysOut.intro "run --Network=none ".toList
    [⟨[], [], "  --mount=type=ssh \t<<-\"E\"".toList⟩]
    (List.forall_mem_cons.mpr ⟨hparts.1, List.forall_mem_singleton.mpr hparts.2⟩)
    (List.forall_mem_singleton.mpr ⟨by decide, fun _ h => absurd h List.not_mem_nil⟩)
    (fun p hp => by
      obtain rfl : "  --mount=type=ssh \t<<-\"E\"".toList = p := Option.some.inj hp
      decide)
  have htext : mountingHeader.text = join [' '] ((partsOf "run --Network=none ".toList
      [⟨[], [], "  --mount=type=ssh \t<<-\"E\"".toList⟩]).map trim) := by decide +kernel
  rw [htext]
  exact hlaid

/-- The script of `mountingText`. -/
def mountingScript : HeredocScript mountingText where
  header := mountingHeader
  above := ["USER a".toList]
  lines := ["run --Network=none \\".toList, "  --mount=type=ssh \t<<-\"E\"".toList]
  body := ["\t# b".toList, [], "\t c".toList, "\t--d".toList]
  closing := "\tE ".toList
  below := ["USER e".toList]
  physicalLines_eq := by decide +kernel
  walk_above := by decide +kernel
  laysOut := laysOut_mountingHeader
  body_open := by decide +kernel
  closing_closes := by decide +kernel
  exists_command := ⟨"\t c".toList, by decide, by decide, by decide⟩

theorem parse_heredocScript_of_mounts :
    entriesFrom 1 mountingScript.above = .ok [⟨.user "a", 1, "USER a"⟩] ∧
    entriesFrom mountingScript.next mountingScript.below = .ok [⟨.user "e", 9, "USER e"⟩] ∧
    parse mountingText = .ok [⟨.user "a", 1, "USER a"⟩,
      ⟨.run (.shell "c\n--d") { mounts := [{ type := .ssh }], network := some "none" }, 2,
        "run --Network=none \\\n  --mount=type=ssh \t<<-\"E\"\n\t# b\n\n\t c\n\t--d\n\tE "⟩,
      ⟨.user "e", 9, "USER e"⟩] := by
  have has : entriesFrom 1 mountingScript.above = .ok [⟨.user "a", 1, "USER a"⟩] := by
    decide +kernel
  have hbs : entriesFrom mountingScript.next mountingScript.below =
      .ok [⟨.user "e", 9, "USER e"⟩] := by
    decide +kernel
  have hentry : mountingScript.entry (.shell (String.ofList mountingScript.script)) =
      ⟨.run (.shell "c\n--d") { mounts := [{ type := .ssh }], network := some "none" }, 2,
        "run --Network=none \\\n  --mount=type=ssh \t<<-\"E\"\n\t# b\n\n\t c\n\t--d\n\tE "⟩ := by
    decide +kernel
  have hparse := (parse_heredocScript mountingScript has hbs).1.mpr
    ⟨by decide +kernel, by decide +kernel⟩
  rw [hentry] at hparse
  exact ⟨has, hbs, hparse⟩

/-- Not every heredoc is its script: one starts with a flag and gives the instruction another
network than the header, and one is an array of texts. -/
theorem parse_heredoc_not_script :
    parse "RUN --network=none <<EOF\n--network=host make\nEOF\n" =
      .ok [⟨.run (.shell "make") { network := some "host" }, 1,
        "RUN --network=none <<EOF\n--network=host make\nEOF"⟩] ∧
    parse "RUN <<EOF\n[\"a\", \"b\"]\nEOF\n" =
      .ok [⟨.run (.exec ["a", "b"]) {}, 1, "RUN <<EOF\n[\"a\", \"b\"]\nEOF"⟩] := by
  constructor
  · decide +kernel
  · decide +kernel

end ContainerLint.Dockerfile
