/-
Laws of reading a whole document.

Three things are settled here, for every text. Reading is compositional: what an
accepted text says does not change when more text follows after an empty line, and
what follows is read as if it stood alone, further down. Reading is exhaustive: the
instructions account for every line that is not blank, each line for one instruction.
And reading keeps enough of the text: the physical lines that an instruction carries
read as that instruction, alone or one after the other.

All three rest on the tiling of the document by its logical lines. What is added is
how a text falls into physical lines, and that the readers of instructions see a
logical line's text and bodies and nothing of where it stands.
-/
import ContainerLint.Dockerfile.Parser
import ContainerLint.Proofs.Dockerfile.Tiling
import ContainerLint.Proofs.Result

namespace ContainerLint.Dockerfile

open ContainerLint.Text

/-! ## Physical lines -/

/-- The mark that some editors put in front of a text. -/
def byteOrderMark : Char := Char.ofNat 0xFEFF

/-- A text that does not begin with a mark loses none. -/
theorem dropWhile_byteOrderMark {cs : List Char} (hcs : cs.head? ≠ some byteOrderMark) :
    cs.dropWhile (· == Char.ofNat 0xFEFF) = cs := by
  cases cs with
  | nil => rfl
  | cons c cs =>
    rw [List.dropWhile_cons_of_neg]
    intro hc
    exact hcs (congrArg some (beq_iff_eq.mp hc))

/-- Marks in front of a text are not looked for after a line feed. -/
theorem dropWhile_append_newline (a b : List Char) :
    (a ++ '\n' :: b).dropWhile (· == Char.ofNat 0xFEFF) =
      a.dropWhile (· == Char.ofNat 0xFEFF) ++ '\n' :: b :=
  dropWhile_append_cons (by decide) a b

/-- An empty line keeps the lines before it and after it apart. The text before it may
end in a carriage return, which the first line feed then completes. -/
theorem physicalLines_append (a b : String) (hb : b.toList.head? ≠ some byteOrderMark) :
    physicalLines (a ++ "\n\n" ++ b) = physicalLines (a ++ "\n") ++ physicalLines b := by
  simp only [physicalLines, String.toList_append, String.reduceToList, List.append_assoc,
    List.cons_append, List.nil_append]
  rw [dropWhile_append_newline, dropWhile_append_newline, dropWhile_byteOrderMark hb,
    unifyNewlines_append_newline, unifyNewlines_cons (by decide), splitAtChar_append_cons]

/-- A text that ends in a line feed has an empty last line. -/
theorem physicalLines_concat_newline (a : String) :
    ∃ front, physicalLines (a ++ "\n") = front ++ [[]] := by
  obtain ⟨front, hfront⟩ :=
    unifyNewlines_concat_newline (a.toList.dropWhile (· == Char.ofNat 0xFEFF))
  refine ⟨splitAtChar '\n' front, ?_⟩
  simp only [physicalLines, String.toList_append, String.reduceToList]
  rw [dropWhile_append_newline, hfront, splitAtChar_append_cons]
  rfl

/-- No line end is left inside a physical line. -/
theorem not_mem_of_mem_physicalLines {text : String} {raw : List Char}
    (hraw : raw ∈ physicalLines text) : '\n' ∉ raw ∧ '\r' ∉ raw := by
  refine ⟨fun hmem => (mem_of_mem_splitAtChar hraw hmem).2 rfl, fun hmem => ?_⟩
  exact cr_not_mem_unifyNewlines _ (mem_of_mem_splitAtChar hraw hmem).1

/-- **Physical lines that are written one under the other are read as they are**, if no
byte order mark stands in front. -/
theorem physicalLines_join {raw : List Char} {lines : List (List Char)}
    (hends : ∀ r ∈ raw :: lines, '\n' ∉ r ∧ '\r' ∉ r) (hmark : raw.head? ≠ some byteOrderMark) :
    physicalLines (String.ofList (join ['\n'] (raw :: lines))) = raw :: lines := by
  have hhead : (join ['\n'] (raw :: lines)).head? ≠ some byteOrderMark :=
    fun h => hmark (head?_of_head?_join (by decide) h)
  have hcr : '\r' ∉ join ['\n'] (raw :: lines) := by
    intro hmem
    rcases mem_join hmem with hsep | ⟨r, hr, hcr⟩
    · exact absurd hsep (by decide)
    · exact (hends r hr).2 hcr
  rw [physicalLines, String.toList_ofList, dropWhile_byteOrderMark hhead, unifyNewlines_eq_self hcr]
  exact splitAtChar_join (fun r hr => (hends r hr).1) (List.cons_ne_nil _ _)

/-! ## Entries and their logical lines -/

/-- An entry is an instruction with the place and the text of its lines. -/
theorem positioned_eq_ok_iff {l : LogicalLine} {p : Positioned} :
    l.positioned = .ok p ↔
      l.instruction = .ok p.instruction ∧ l.line = p.line ∧ String.ofList l.source = p.source := by
  unfold LogicalLine.positioned
  cases l.instruction with
  | error e => simp
  | ok i =>
    simp only [Except.ok.injEq]
    constructor
    · rintro rfl
      exact ⟨rfl, rfl, rfl⟩
    · cases p
      rintro ⟨rfl, rfl, rfl⟩
      rfl

/-- **A document is read as some entries exactly if logical lines tile it that denote
these entries.** -/
theorem parse_eq_ok_iff {text : String} {xs : List Positioned} :
    parse text = .ok xs ↔
      ∃ entries, Tiling 1 entries (physicalLines text) ∧
        List.Forall₂ (fun l p => LogicalLine.positioned l = .ok p) entries xs := by
  rw [parse, logicalLines, mapM_bind_eq_ok_iff]
  constructor
  · rintro ⟨entries, hrun, hentries⟩
    exact ⟨entries, (run_eq_ok_iff_tiling 1 entries _).mp hrun, hentries⟩
  · rintro ⟨entries, htiling, hentries⟩
    exact ⟨entries, (run_eq_ok_iff_tiling 1 entries _).mpr htiling, hentries⟩

/-! ## Composition

Entries and errors know of their place only its line, so a document further down reads
as the same entries, or fails with the same error, further down. -/

/-- The entry, `k` lines further down. -/
def Positioned.shift (k : Nat) (p : Positioned) : Positioned :=
  { p with line := p.line + k }

/-- Lines further down give the entry further down. -/
theorem positioned_shift (k : Nat) (l : LogicalLine) :
    (l.shift k).positioned = shiftResult Positioned.shift k l.positioned := by
  have hinstruction : (l.shift k).instruction = l.instruction := rfl
  unfold LogicalLine.positioned
  rw [hinstruction]
  cases l.instruction with
  | ok i => rfl
  | error e => cases e <;> rfl

/-- All lines of a file move down together, its first error included. -/
theorem mapM_positioned_shift (k : Nat) (rs : List (Except ParseError LogicalLine)) :
    (rs.map (shiftResult LogicalLine.shift k)).mapM (fun r => r.bind LogicalLine.positioned) =
      shiftResult (fun k => List.map (Positioned.shift k)) k
        (rs.mapM fun r => r.bind LogicalLine.positioned) := by
  induction rs with
  | nil => rfl
  | cons r rs ih =>
    rw [List.map_cons, List.mapM_cons, List.mapM_cons, ih]
    have hr : (shiftResult LogicalLine.shift k r).bind LogicalLine.positioned =
        shiftResult Positioned.shift k (r.bind LogicalLine.positioned) := by
      cases r with
      | error e => rfl
      | ok l => exact positioned_shift k l
    rw [hr]
    cases r.bind LogicalLine.positioned with
    | error e => rfl
    | ok p => cases rs.mapM fun r => r.bind LogicalLine.positioned <;> rfl

/-- **Reading is compositional.** If a text that ends its last line can be read, then the
same text with more text after an empty line reads as the same entries, followed by those
of the other text moved down by the lines before them; and if the other text cannot be
read, neither can the two together, for the same reason and in the same column, as many
lines further down. -/
theorem parse_append_after_empty_line (a b : String)
    (hb : b.toList.head? ≠ some byteOrderMark) {xs : List Positioned}
    (ha : parse (a ++ "\n") = .ok xs) :
    parse (a ++ "\n\n" ++ b) =
      match parse b with
      | .ok ys => .ok (xs ++ ys.map (Positioned.shift (physicalLines (a ++ "\n")).length))
      | .error e => .error (e.shift (physicalLines (a ++ "\n")).length) := by
  obtain ⟨front, hfront⟩ := physicalLines_concat_newline a
  obtain ⟨entries, hrun, -⟩ := mapM_bind_eq_ok_iff.mp ha
  rw [logicalLines, hfront] at hrun
  -- nothing is open after the first text, so the second is read from scratch
  have hwalk := Assembly.walk_concat_empty hrun
  rw [← hfront] at hwalk hrun
  have hrest := Assembly.run_shift (physicalLines (a ++ "\n")).length .idle 1 (physicalLines b)
  rw [Assembly.shift] at hrest
  have hall : logicalLines (physicalLines (a ++ "\n\n" ++ b)) =
      logicalLines (physicalLines (a ++ "\n")) ++ (logicalLines (physicalLines b)).map
        (shiftResult LogicalLine.shift (physicalLines (a ++ "\n")).length) := by
    rw [logicalLines, logicalLines, logicalLines, physicalLines_append a b hb,
      Assembly.run_append, hwalk, hrun, hrest]
  rw [parse] at ha
  rw [parse, hall, List.mapM_append, ha, mapM_positioned_shift, ← parse]
  cases parse b <;> rfl

/-- A text that ends in a backslash: the empty line ends the instruction, and the text
after it fails at its second line, the fourth of the whole. -/
theorem parse_append_after_backslash :
    parse ("WORKDIR /a \\" ++ "\n") = .ok [⟨.workdir "/a", 1, "WORKDIR /a \\\n"⟩] ∧
    parse ("WORKDIR /a \\" ++ "\n\n" ++ "USER b\nVOLUMES /c") =
      .error (.malformed (.unknownInstruction "VOLUMES") 4 (some 1)) := by
  have ha : parse ("WORKDIR /a \\" ++ "\n") =
      .ok [⟨.workdir "/a", 1, "WORKDIR /a \\\n"⟩] := by decide +kernel
  refine ⟨ha, ?_⟩
  rw [parse_append_after_empty_line _ _ (by decide) ha]
  decide +kernel

/-! ## Coverage

An entry carries its physical lines as one text, so how many there are can be read off
that text. With the line it starts at, this says which lines of the document it takes
up. -/

/-- The number of physical lines of an entry. -/
def Positioned.height (p : Positioned) : Nat :=
  (splitAtChar '\n' p.source.toList).length

/-- The entry takes up the physical line with the given number. -/
def Positioned.Covers (p : Positioned) (number : Nat) : Prop :=
  p.line ≤ number ∧ number < p.line + p.height

/-- How the entries of a document lie in its physical lines, which are numbered from
one. -/
structure Layout (lines : List (List Char)) (entries : List Positioned) : Prop where
  /-- Entries stand in the order of their lines. -/
  increasing : entries.Pairwise fun a b => a.line < b.line
  /-- The text of an entry is a piece of the document that starts at its line. -/
  slice : ∀ p ∈ entries, 1 ≤ p.line ∧ 0 < p.height ∧ p.line - 1 + p.height ≤ lines.length ∧
    p.source = String.ofList (join ['\n'] ((lines.drop (p.line - 1)).take p.height))
  /-- No line belongs to two entries. -/
  disjoint : entries.Pairwise fun a b => ∀ number, ¬(a.Covers number ∧ b.Covers number)
  /-- A line that belongs to none is blank. -/
  blank : ∀ (i : Nat) (hi : i < lines.length),
    (∀ p ∈ entries, ¬p.Covers (i + 1)) → allBlank lines[i] = true

/-- The lines of a tile are lines of the document, so they contain no line end. -/
theorem Tiling.not_mem_physical {text : String} {entries : List LogicalLine}
    (h : Tiling 1 entries (physicalLines text)) :
    ∀ l ∈ entries, ∀ raw ∈ l.physical, '\n' ∉ raw ∧ '\r' ∉ raw := by
  intro l hl raw hraw
  obtain ⟨front, back, hlines, -⟩ := h.exists_append l hl
  have hmem : raw ∈ physicalLines text := by
    rw [hlines]
    exact List.mem_append_left back (List.mem_append_right front hraw)
  exact not_mem_of_mem_physicalLines hmem

/-- An entry is where its logical line is, and as high. -/
theorem places_of_tiling {text : String} {entries : List LogicalLine} {xs : List Positioned}
    (htiling : Tiling 1 entries (physicalLines text))
    (hentries : List.Forall₂ (fun l p => LogicalLine.positioned l = .ok p) entries xs) :
    List.Forall₂ (fun l p => l.line = p.line ∧ l.physical.length = p.height ∧
      String.ofList (join ['\n'] l.physical) = p.source) entries xs := by
  have hsplit : ∀ l ∈ entries, splitAtChar '\n' (join ['\n'] l.physical) = l.physical :=
    fun l hl => splitAtChar_join (fun raw hraw => (htiling.not_mem_physical l hl raw hraw).1)
      (htiling.readsItself l hl).physical_ne_nil
  refine ((List.forall₂_and_left _ _).mpr ⟨hsplit, hentries⟩).imp fun l p h => ?_
  obtain ⟨hlines, hp⟩ := h
  obtain ⟨-, hline, hsource⟩ := positioned_eq_ok_iff.mp hp
  rw [LogicalLine.source] at hsource
  refine ⟨hline, ?_, hsource⟩
  rw [Positioned.height, ← hsource, String.toList_ofList, hlines]

theorem Positioned.height_pos (p : Positioned) : 0 < p.height :=
  List.length_pos_of_ne_nil (splitAtChar_ne_nil _ _)

/-- **No physical line is lost or used twice.** The entries of a document that can be read
stand in the order of their lines; each is a piece of the document, as it stands there,
from its line on; no two pieces share a line, and what is in no piece is blank. -/
theorem layout_of_parse {text : String} {xs : List Positioned} (h : parse text = .ok xs) :
    Layout (physicalLines text) xs := by
  obtain ⟨entries, htiling, hentries⟩ := parse_eq_ok_iff.mp h
  have hplaces := places_of_tiling htiling hentries
  -- each entry ends before the next one starts
  have happart : xs.Pairwise fun a b => a.line + a.height ≤ b.line := by
    refine pairwise_of_forall₂ ?_ hplaces htiling.pairwise_le
    rintro l m p q ⟨hline, hheight, -⟩ ⟨hline', -, -⟩ hle
    rwa [hline, hheight, hline'] at hle
  refine ⟨?_, fun p hp => ?_, ?_, fun i hi houtside => ?_⟩
  · refine happart.imp fun {p q} hle => ?_
    have := p.height_pos
    omega
  · obtain ⟨l, hl, hline, hheight, hsource⟩ := exists_of_mem_right hplaces hp
    obtain ⟨front, back, hlines, hfront⟩ := htiling.exists_append l hl
    have hstart : p.line - 1 = front.length := by omega
    refine ⟨by omega, p.height_pos, ?_, ?_⟩
    · rw [hlines, hstart, List.length_append, List.length_append, hheight]
      omega
    · rw [← hsource, hlines, hstart, List.append_assoc, List.drop_left, ← hheight, List.take_left]
  · refine happart.imp fun {p q} hle number hboth => ?_
    obtain ⟨⟨-, hbefore⟩, hafter, -⟩ := hboth
    omega
  · refine htiling.allBlank_of_outside i hi fun l hl hin => ?_
    obtain ⟨p, hp, hline, hheight, -⟩ := exists_of_mem_left hplaces hl
    rw [hline, hheight] at hin
    exact houtside p hp ⟨by omega, by omega⟩

/-- A document with a comment inside a continuation, a blank line, a heredoc and a
backslash at its very end. -/
theorem layout_of_parse_dangling :
    parse "USER a \\\n # b\n\n\t\nRUN <<E\n\nE\nWORKDIR /c \\" =
      .ok [⟨.user "a", 1, "USER a \\\n # b\n"⟩, ⟨.run (.shell "<<E") {}, 5, "RUN <<E\n\nE"⟩,
        ⟨.workdir "/c", 8, "WORKDIR /c \\"⟩] ∧
    Layout (physicalLines "USER a \\\n # b\n\n\t\nRUN <<E\n\nE\nWORKDIR /c \\")
      [⟨.user "a", 1, "USER a \\\n # b\n"⟩, ⟨.run (.shell "<<E") {}, 5, "RUN <<E\n\nE"⟩,
        ⟨.workdir "/c", 8, "WORKDIR /c \\"⟩] := by
  have h : parse "USER a \\\n # b\n\n\t\nRUN <<E\n\nE\nWORKDIR /c \\" =
      .ok [⟨.user "a", 1, "USER a \\\n # b\n"⟩, ⟨.run (.shell "<<E") {}, 5, "RUN <<E\n\nE"⟩,
        ⟨.workdir "/c", 8, "WORKDIR /c \\"⟩] := by decide +kernel
  exact ⟨h, layout_of_parse h⟩

/-! ## Reading what entries carry

A byte order mark in front of a text is dropped before anything is read, so an entry
whose own text started with one would not read the same. There is none: the mark is no
blank, hence part of the keyword, and no keyword has one. -/

theorem upperChar_byteOrderMark : upperChar byteOrderMark = [byteOrderMark] := by
  decide +kernel

/-- The mark has no case, so it is still there in a keyword. -/
theorem head?_upper {word : List Char} (hword : word.head? = some byteOrderMark) :
    (upper (String.ofList word)).toList.head? = some byteOrderMark := by
  obtain ⟨cs, rfl⟩ := List.head?_eq_some_iff.mp hword
  rw [upper, String.toList_ofList, String.toList_ofList, List.flatMap_cons,
    upperChar_byteOrderMark]
  rfl

/-- A word with a mark in front is no keyword, in any case. -/
theorem upper_ne_keyword {word : List Char} (hword : word.head? = some byteOrderMark)
    {keyword : String} (hkeyword : keyword.toList.head? ≠ some byteOrderMark) :
    (upper (String.ofList word) == keyword) = false := by
  rw [beq_eq_false_iff_ne]
  rintro rfl
  exact hkeyword (head?_upper hword)

/-- A mark in front is part of the first word. -/
theorem head?_cutWord {text word rest : List Char} (htext : text.head? = some byteOrderMark)
    (hcut : cutWord text = some (word, rest)) : word.head? = some byteOrderMark := by
  obtain ⟨cs, rfl⟩ := List.head?_eq_some_iff.mp htext
  have hblank : isBlank byteOrderMark = false := by decide
  rw [cutWord, trimLeft, dropFront, List.dropWhile_cons_of_neg (by simp [hblank])] at hcut
  simp only [List.takeWhile_cons, hblank, Bool.not_false, if_true, Option.some.injEq,
    Prod.mk.injEq] at hcut
  rw [← hcut.1]
  rfl

/-- No keyword begins with the mark. -/
theorem reader?_byteOrderMark {keyword : String}
    (h : keyword.toList.head? = some byteOrderMark) : reader? keyword = none := by
  unfold reader?
  split
  case h_18 => rfl
  all_goals exact absurd h (by decide)

theorem readPlain_byteOrderMark {word : List Char} (hword : word.head? = some byteOrderMark)
    (rest : List Char) (i : Instruction) : readPlain word rest ≠ .ok i := by
  rw [readPlain, reader?_byteOrderMark (head?_upper hword)]
  simp

/-- Nothing that begins with the mark is an instruction. -/
theorem readInstruction_byteOrderMark {text : List Char}
    (htext : text.head? = some byteOrderMark) (i : Instruction) :
    readInstruction text ≠ .ok i := by
  unfold readInstruction
  cases hcut : cutWord text with
  | none => simp [fail]
  | some cut =>
    obtain ⟨word, rest⟩ := cut
    have hword := head?_cutWord htext hcut
    have honBuild : (upper (String.ofList word) == "ONBUILD") = false :=
      upper_ne_keyword hword (by decide)
    simp only [honBuild, Bool.false_eq_true, if_false]
    exact readPlain_byteOrderMark hword rest i

/-- A text that begins with the mark takes no body in. -/
theorem inlineHeredoc_byteOrderMark {text : List Char}
    (htext : text.head? = some byteOrderMark) (body : List Char) :
    inlineHeredoc text body = text := by
  unfold inlineHeredoc
  cases hcut : cutWord text with
  | none => rfl
  | some cut =>
    obtain ⟨word, rest⟩ := cut
    have hrun : (upper (String.ofList word) == "RUN") = false :=
      upper_ne_keyword (head?_cutWord htext hcut) (by decide)
    simp only [hrun, Bool.false_eq_true, if_false]

/-- A logical line whose text starts with a byte order mark denotes no instruction. -/
theorem instruction_byteOrderMark {l : LogicalLine} (htext : l.text.head? = some byteOrderMark)
    (i : Instruction) : l.instruction ≠ .ok i := by
  unfold LogicalLine.instruction
  split
  next text hsign =>
    rw [hsign, List.head?_cons, Option.some.injEq] at htext
    exact absurd htext (by decide)
  next =>
    split
    next body bodies hbodies =>
      rw [inlineHeredoc_byteOrderMark htext]
      exact readInstruction_byteOrderMark htext i
    next => exact readInstruction_byteOrderMark htext i

/-- The lines of an instruction do not begin with the mark, and are read alike as a file of their
own. -/
theorem head?_physical_ne_byteOrderMark {l : LogicalLine} (hreads : l.ReadsItself)
    {i : Instruction} (hok : l.instruction = .ok i) {raw : List Char} {lines : List (List Char)}
    (hphysical : l.physical = raw :: lines) : raw.head? ≠ some byteOrderMark := by
  intro hraw
  obtain ⟨cs, rfl⟩ := List.head?_eq_some_iff.mp hraw
  rw [LogicalLine.ReadsItself, hphysical] at hreads
  have htext := Assembly.text_head?_of_run (by decide) (by decide) (by decide) hreads
  exact instruction_byteOrderMark htext i hok

/-- An entry may be read at any line. -/
theorem positioned_moveTo {l : LogicalLine} {p : Positioned} (h : l.positioned = .ok p)
    (number : Nat) : (l.moveTo number).positioned = .ok { p with line := number } := by
  obtain ⟨hinstruction, -, hsource⟩ := positioned_eq_ok_iff.mp h
  exact positioned_eq_ok_iff.mpr ⟨hinstruction, rfl, hsource⟩

/-- What an entry says: its instruction and its text, without its line. -/
def Positioned.content (p : Positioned) : Instruction × String :=
  (p.instruction, p.source)

section Sources

variable {entries : List LogicalLine} {xs : List Positioned}

/-- The text of an entry is its lines. -/
theorem map_source_eq
    (hentries : List.Forall₂ (fun l p => LogicalLine.positioned l = .ok p) entries xs) :
    xs.map (fun p => p.source.toList) = entries.map fun l => join ['\n'] l.physical := by
  induction hentries with
  | nil => rfl
  | cons hp hrest ih =>
    rw [List.map_cons, List.map_cons, ih, ← (positioned_eq_ok_iff.mp hp).2.2,
      String.toList_ofList, LogicalLine.source]

/-- Entries put together, with nothing in between, give the same instructions. -/
theorem exists_forall₂_gather
    (hentries : List.Forall₂ (fun l p => LogicalLine.positioned l = .ok p) entries xs)
    (number : Nat) :
    ∃ ys, List.Forall₂ (fun l p => LogicalLine.positioned l = .ok p) (gather number entries) ys ∧
      ys.map Positioned.content = xs.map Positioned.content := by
  induction hentries generalizing number with
  | nil => exact ⟨[], .nil, rfl⟩
  | @cons l p entries xs hp hrest ih =>
    obtain ⟨ys, hys, hcontent⟩ := ih (number + l.physical.length)
    refine ⟨{ p with line := number } :: ys, .cons (positioned_moveTo hp number) hys, ?_⟩
    rw [List.map_cons, List.map_cons, hcontent]
    rfl

/-- The physical lines of the texts of entries, one under the other, are those of their
logical lines. -/
theorem physicalLines_sources (hne : entries ≠ [])
    (hreads : ∀ l ∈ entries, l.ReadsItself)
    (hends : ∀ l ∈ entries, ∀ raw ∈ l.physical, '\n' ∉ raw ∧ '\r' ∉ raw)
    (hentries : List.Forall₂ (fun l p => LogicalLine.positioned l = .ok p) entries xs) :
    physicalLines (joinWith "\n" (xs.map Positioned.source)) =
      entries.flatMap LogicalLine.physical := by
  -- the joins agree since no entry is without lines
  have hgroups : ∀ group ∈ entries.map LogicalLine.physical, group ≠ [] := by
    intro group hgroup
    obtain ⟨l, hl, rfl⟩ := List.mem_map.mp hgroup
    exact (hreads l hl).physical_ne_nil
  have hjoined : joinWith "\n" (xs.map Positioned.source) =
      String.ofList (join ['\n'] (entries.flatMap LogicalLine.physical)) := by
    have hpieces : (xs.map Positioned.source).map String.toList =
        (entries.map LogicalLine.physical).map (join ['\n']) := by
      rw [List.map_map, List.map_map]
      exact map_source_eq hentries
    rw [joinWith, hpieces, List.flatMap_def]
    exact congrArg String.ofList (join_map_join ['\n'] hgroups)
  rw [hjoined]
  cases hentries with
  | nil => exact absurd rfl hne
  | @cons l p entries xs hp hrest =>
    obtain ⟨raw, lines, hphysical⟩ :=
      List.exists_cons_of_ne_nil (hreads l List.mem_cons_self).physical_ne_nil
    have hflat : (l :: entries).flatMap LogicalLine.physical =
        raw :: (lines ++ entries.flatMap LogicalLine.physical) := by
      rw [List.flatMap_cons, hphysical, List.cons_append]
    rw [hflat]
    refine physicalLines_join (fun r hr => ?_) (head?_physical_ne_byteOrderMark
      (hreads l List.mem_cons_self) (positioned_eq_ok_iff.mp hp).1 hphysical)
    rw [← hflat] at hr
    obtain ⟨m, hm, hrm⟩ := List.mem_flatMap.mp hr
    exact hends m hm r hrm

end Sources

/-- **The texts that entries carry are the document.** Written one under the other, the
texts of the entries of a document that can be read are read as the same instructions with
the same texts; and each by itself is read as its own instruction, at line one. -/
theorem parse_sources {text : String} {xs : List Positioned} (h : parse text = .ok xs) :
    (∃ ys, parse (joinWith "\n" (xs.map Positioned.source)) = .ok ys ∧
      ys.map Positioned.content = xs.map Positioned.content) ∧
    ∀ p ∈ xs, parse p.source = .ok [{ p with line := 1 }] := by
  obtain ⟨entries, htiling, hentries⟩ := parse_eq_ok_iff.mp h
  have hreads := htiling.readsItself
  have hends := htiling.not_mem_physical
  constructor
  · obtain ⟨ys, hys, hcontent⟩ := exists_forall₂_gather hentries 1
    refine ⟨ys, parse_eq_ok_iff.mpr ⟨gather 1 entries, ?_, hys⟩, hcontent⟩
    by_cases hne : entries = []
    · -- no entries at all: the empty text has one line, which is blank
      subst hne
      obtain rfl := List.forall₂_nil_left_iff.mp hentries
      exact .blank rfl (.done 2)
    · rw [physicalLines_sources hne hreads hends hentries]
      exact htiling.gather 1
  · intro p hp
    obtain ⟨l, hl, hlp⟩ := exists_of_mem_right hentries hp
    have hlines := physicalLines_sources (List.cons_ne_nil l [])
      (List.forall_mem_singleton.mpr (hreads l hl)) (List.forall_mem_singleton.mpr (hends l hl))
      (.cons hlp .nil)
    rw [List.flatMap_singleton] at hlines
    refine parse_eq_ok_iff.mpr ⟨[l.moveTo 1], ?_, .cons (positioned_moveTo hlp 1) .nil⟩
    have hsource : joinWith "\n" ([p].map Positioned.source) = p.source := String.ofList_toList
    rw [← hsource, hlines]
    exact .last ((hreads l hl).moveTo 1)

/-- A heredoc that holds what looks like an instruction, and an instruction that only the
end of the document completes. -/
theorem parse_sources_heredoc :
    parse "\nCOPY <<-E /a\n\tUSER b\n\tE\n \nUSER c \\\n# d" =
      .ok [⟨.copy ["<<-E"] "/a" {}, 2, "COPY <<-E /a\n\tUSER b\n\tE"⟩,
        ⟨.user "c", 6, "USER c \\\n# d"⟩] ∧
    parse "USER c \\\n# d" = .ok [⟨.user "c", 1, "USER c \\\n# d"⟩] := by
  have h : parse "\nCOPY <<-E /a\n\tUSER b\n\tE\n \nUSER c \\\n# d" =
      .ok [⟨.copy ["<<-E"] "/a" {}, 2, "COPY <<-E /a\n\tUSER b\n\tE"⟩,
        ⟨.user "c", 6, "USER c \\\n# d"⟩] := by decide +kernel
  exact ⟨h, (parse_sources h).2 _ (List.mem_cons_of_mem _ List.mem_cons_self)⟩

end ContainerLint.Dockerfile
