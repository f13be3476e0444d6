/-
Instructions on one line.

A keyword, a space and a text are a document of one instruction if nothing in the text
gets in the way of that: it has no blank at either end and no line end inside, and it
does not end in a backslash. The reader of the keyword then gets the text as it stands.
-/
import ContainerLint.Proofs.Dockerfile.Header

namespace ContainerLint.Dockerfile

open ContainerLint.Text

/-- The keywords of instructions that have no heredocs and defer no other instruction. -/
def plainKeywords : List String := [
  "FROM", "ENV", "LABEL", "EXPOSE", "ARG", "ENTRYPOINT", "CMD", "SHELL", "USER", "WORKDIR",
  "VOLUME", "MAINTAINER", "STOPSIGNAL", "HEALTHCHECK"]

/-- A text that may stand behind a keyword as it is. -/
structure IsArgumentText (text : List Char) : Prop where
  head : ∃ c ∈ text.head?, isBlank c = false
  last : ∃ c ∈ text.getLast?, isBlank c = false ∧ c ≠ '\\'
  oneLine : IsOnOneLine text

theorem IsArgumentText.trim_eq {text : List Char} (h : IsArgumentText text) : trim text = text := by
  obtain ⟨c, hc, hblank, -⟩ := h.last
  exact trim_eq_self h.head ⟨c, hc, hblank⟩

/-- All that is used of a keyword. -/
theorem of_mem_plainKeywords {keyword : String} (h : keyword ∈ plainKeywords) :
    (∃ c cs, keyword.toList = c :: cs ∧ c ≠ '#' ∧ c ≠ byteOrderMark) ∧
      (∀ c ∈ keyword.toList, isBlank c = false) ∧ upper keyword = keyword ∧
      heredocKeywords.contains keyword = false ∧ keyword ≠ "ONBUILD" := by
  have hheads : ∀ k ∈ plainKeywords,
      k.toList.head?.any (fun c => c != '#' && c != byteOrderMark) = true := by decide +kernel
  have hblanks : ∀ k ∈ plainKeywords, k.toList.all (!isBlank ·) = true := by decide +kernel
  have hothers : ∀ k ∈ plainKeywords,
      upper k = k ∧ heredocKeywords.contains k = false ∧ k ≠ "ONBUILD" := by decide +kernel
  refine ⟨?_, fun c hc => ?_, hothers keyword h⟩
  · obtain ⟨c, hc, hne⟩ := (Option.any_eq_true _ _).mp (hheads keyword h)
    rw [Bool.and_eq_true, bne_iff_ne, bne_iff_ne] at hne
    obtain ⟨cs, hcs⟩ := List.head?_eq_some_iff.mp hc
    exact ⟨c, cs, hcs, hne.1, hne.2⟩
  · simpa using List.all_eq_true.mp (hblanks keyword h) c hc

/-- The keyword is cut off where the space stands. -/
theorem cutWord_append_space {word text : List Char} (hne : word ≠ [])
    (hword : ∀ c ∈ word, isBlank c = false) (htext : ∃ c ∈ text.head?, isBlank c = false) :
    cutWord (word ++ ' ' :: text) = some (word, text) := by
  obtain ⟨d, hd, hblank⟩ := htext
  obtain ⟨more, rfl⟩ := List.head?_eq_some_iff.mp hd
  have hright : trimLeft (' ' :: d :: more) = d :: more := by
    rw [trimLeft, dropFront, List.dropWhile_cons_of_pos (by decide),
      List.dropWhile_cons_of_neg (by simp [hblank])]
  rw [cutWord_append hne hword (by simp; decide), hright]

/-- The line is one logical line, and its text is the line. -/
theorem logicalLines_singleton {line : List Char} (hpart : IsPart line) (htrim : trim line = line)
    (hlast : line.getLast? ≠ some '\\') (hmarkers : markersOf line = []) :
    logicalLines [line] = [.ok ⟨1, line, [line], []⟩] := by
  have hwhole : ∀ p ∈ (partsOf line []).getLast?, (trimRight p).getLast? ≠ some '\\' := by
    intro p hp
    obtain rfl : line = p := Option.some.inj hp
    rwa [← (ends_of_trim hpart.notBlank).2.2, htrim]
  have hparts : ∀ p ∈ partsOf line [], IsPart p := List.forall_mem_singleton.mpr hpart
  have hrun := Assembly.run_layOut hparts (fun _ hc => absurd hc List.not_mem_nil) hwhole
    (fun p hp => Assembly.step_idle_of_isPart hp 1) []
  have htext : joinParts (partsOf line []) = line := by
    rw [joinParts_eq fun p hp => (hparts p hp).notBlank]
    exact htrim
  rw [List.reverse_nil, List.nil_append, htext, hmarkers] at hrun
  exact hrun

/-! ## The line of a keyword and a text -/

/-- A keyword, a space and a text. -/
def lineOf (keyword : String) (text : List Char) : List Char :=
  keyword.toList ++ ' ' :: text

/-- The line does not go on, for it ends as its arguments do. -/
theorem getLast?_lineOf (keyword : String) {text : List Char} (htext : IsArgumentText text) :
    ∃ c ∈ (lineOf keyword text).getLast?, isBlank c = false ∧ c ≠ '\\' := by
  obtain ⟨c, hc, hblank, hslash⟩ := htext.last
  refine ⟨c, ?_, hblank, hslash⟩
  rw [lineOf, List.getLast?_append, List.getLast?_cons, Option.mem_def.mp hc]
  rfl

section Line

variable {keyword : String} (hkeyword : keyword ∈ plainKeywords) {text : List Char}
  (htext : IsArgumentText text)

include hkeyword

/-- The line begins as its keyword does, so it is no comment. -/
theorem head?_lineOf (text : List Char) :
    ∃ c ∈ (lineOf keyword text).head?, isBlank c = false ∧ c ≠ '#' ∧ c ≠ byteOrderMark := by
  obtain ⟨⟨c, cs, hcs, hsign, hmark⟩, hblank, -⟩ := of_mem_plainKeywords hkeyword
  refine ⟨c, ?_, hblank c (hcs ▸ List.mem_cons_self), hsign, hmark⟩
  rw [lineOf, hcs]
  rfl

include htext

theorem trim_lineOf : trim (lineOf keyword text) = lineOf keyword text := by
  obtain ⟨c, hc, hblank, -⟩ := head?_lineOf hkeyword text
  obtain ⟨d, hd, hblank', -⟩ := getLast?_lineOf keyword htext
  exact trim_eq_self ⟨c, hc, hblank⟩ ⟨d, hd, hblank'⟩

/-- The line is a part that starts an instruction. -/
theorem isPart_lineOf : IsPart (lineOf keyword text) := by
  obtain ⟨c, hc, hblank, hsign, -⟩ := head?_lineOf hkeyword text
  constructor
  · obtain ⟨cs, hcs⟩ := List.head?_eq_some_iff.mp hc
    rw [hcs, allBlank, List.all_cons, hblank, Bool.false_and]
  · rw [isCommentLine, trim_lineOf hkeyword htext, Option.mem_def.mp hc]
    simpa using hsign

/-- The line is cut into keyword and arguments. -/
theorem cutWord_lineOf : cutWord (lineOf keyword text) = some (keyword.toList, text) := by
  obtain ⟨⟨c, cs, hcs, -⟩, hblank, -⟩ := of_mem_plainKeywords hkeyword
  exact cutWord_append_space (hcs ▸ List.cons_ne_nil c cs) hblank htext.head

/-- The line calls for no heredoc, which only three instructions do. -/
theorem markersOf_lineOf : markersOf (lineOf keyword text) = [] := by
  obtain ⟨-, -, hupper, hheredoc, -⟩ := of_mem_plainKeywords hkeyword
  simp only [markersOf, cutWord_lineOf hkeyword htext, String.ofList_toList, hupper, hheredoc,
    Bool.false_eq_true, if_false]

theorem isOnOneLine_lineOf : IsOnOneLine (lineOf keyword text) := by
  obtain ⟨-, hblank, -⟩ := of_mem_plainKeywords hkeyword
  rw [lineOf, isOnOneLine_append, isOnOneLine_cons]
  exact ⟨isOnOneLine_of_not_blank hblank, by decide, htext.oneLine⟩

/-- The line is one physical line. -/
theorem physicalLines_lineOf :
    physicalLines (String.ofList (lineOf keyword text)) = [lineOf keyword text] := by
  obtain ⟨c, hc, -, -, hmark⟩ := head?_lineOf hkeyword text
  have hends := (isOnOneLine_lineOf hkeyword htext).not_mem
  refine @physicalLines_join (lineOf keyword text) [] (List.forall_mem_singleton.mpr hends) ?_
  rw [Option.mem_def.mp hc]
  exact fun h => hmark (Option.some.inj h)

/-- The line is one logical line. -/
theorem logicalLines_lineOf :
    logicalLines [lineOf keyword text] =
      [.ok ⟨1, lineOf keyword text, [lineOf keyword text], []⟩] := by
  obtain ⟨c, hc, -, hslash⟩ := getLast?_lineOf keyword htext
  refine logicalLines_singleton (isPart_lineOf hkeyword htext) (trim_lineOf hkeyword htext) ?_
    (markersOf_lineOf hkeyword htext)
  rw [Option.mem_def.mp hc]
  exact fun h => hslash (Option.some.inj h)

/-- The instruction of the line is the one that the reader of the keyword finds. -/
theorem readInstruction_lineOf {reader : ArgumentReader} (hreader : reader? keyword = some reader) :
    readInstruction (lineOf keyword text) = reader text := by
  obtain ⟨-, -, hupper, -, honbuild⟩ := of_mem_plainKeywords hkeyword
  simp only [readInstruction, cutWord_lineOf hkeyword htext, String.ofList_toList, hupper,
    beq_iff_eq, honbuild, if_false, readPlain, hreader, htext.trim_eq]

end Line

/-- **A keyword and a text behind it are one instruction**, the one that the reader of the
keyword finds in the text. -/
theorem parse_singleLine {keyword : String} (hkeyword : keyword ∈ plainKeywords)
    {reader : ArgumentReader} (hreader : reader? keyword = some reader) {text : String}
    (htext : IsArgumentText text.toList) {i : Instruction} (hread : reader text.toList = .ok i) :
    parse (keyword ++ " " ++ text) = .ok [⟨i, 1, keyword ++ " " ++ text⟩] := by
  have hwritten : keyword ++ " " ++ text = String.ofList (lineOf keyword text.toList) := by
    rw [← String.toList_inj, String.toList_ofList, String.toList_append, String.toList_append,
      List.append_assoc]
    rfl
  obtain ⟨c, hc, -, hsign, -⟩ := head?_lineOf hkeyword text.toList
  -- the keyword is no number sign, so the line is not read as a comment
  have hinstruction : (⟨1, lineOf keyword text.toList, [lineOf keyword text.toList], []⟩ :
      LogicalLine).instruction = .ok i := by
    unfold LogicalLine.instruction
    split
    next rest hrest =>
      have hrest : lineOf keyword text.toList = '#' :: rest := hrest
      rw [hrest] at hc
      exact absurd (Option.some.inj hc).symm hsign
    next =>
      dsimp only
      rw [readInstruction_lineOf hkeyword htext hreader, hread]
  rw [hwritten, parse, physicalLines_lineOf hkeyword htext, logicalLines_lineOf hkeyword htext,
    mapM_eq_ok_iff]
  exact .cons (positioned_eq_ok_iff.mpr ⟨hinstruction, rfl, rfl⟩) .nil

end ContainerLint.Dockerfile
