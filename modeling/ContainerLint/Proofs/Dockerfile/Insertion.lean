/-
A line more in a document.

Blank lines and comments between instructions are the layout of a document. To put one
more in front of an instruction or a comment moves all that follows down by a line and
does nothing else: the assembly has no logical line open there, so that the new line is
skipped or stands for itself, and what follows is read as if it stood further up.
-/
import ContainerLint.Pragma.Dockerfile
import ContainerLint.Proofs.Dockerfile.Containment

namespace ContainerLint

/-- The number of a line after one more line is put in front of line `k`. -/
def lineAfterInsertion {α : Type} [LE α] [DecidableLE α] [Add α] [OfNat α 1] (k n : α) : α :=
  if k ≤ n then n + 1 else n

theorem cast_lineAfterInsertion (k n : Nat) :
    ((lineAfterInsertion k n : Nat) : Int) = lineAfterInsertion (k : Int) (n : Int) := by
  unfold lineAfterInsertion
  split <;> split <;> omega

/-- Inserting a line keeps the order of the others. -/
theorem lineAfterInsertion_lt_iff {k m n : Int} :
    lineAfterInsertion k m < lineAfterInsertion k n ↔ m < n := by
  unfold lineAfterInsertion
  split <;> split <;> omega

/-- Inserting a line moves no two lines to one place. -/
theorem injective_lineAfterInsertion (k : Int) : Function.Injective (lineAfterInsertion k) := by
  intro m n h
  unfold lineAfterInsertion at h
  split at h <;> split at h <;> omega

namespace Dockerfile

open ContainerLint.Text

/-! ## The new line in the text -/

/-- The text is a line end in front of what follows: a line feed, a carriage return, or
both together. -/
def IsLineEnd (eol rest : List Char) : Prop :=
  eol = ['\n'] ∨ eol = ['\r', '\n'] ∨ eol = ['\r'] ∧ rest.head? ≠ some '\n'

/-- A line starts between the two parts of a text. -/
def StartsLine (front rest : List Char) : Prop :=
  front = [] ∨ ∃ cs eol, front = cs ++ eol ∧ IsLineEnd eol rest

/-- The second text is the first one with a line more in front of line `k`. -/
def InsertsLine (k : Nat) (line : List Char) (text text' : String) : Prop :=
  ∃ a b eol, text.toList = a ++ b ∧ text'.toList = a ++ (line ++ eol ++ b) ∧
    StartsLine a b ∧ StartsLine a (line ++ eol ++ b) ∧ IsLineEnd eol b ∧
    '\n' ∉ line ∧ '\r' ∉ line ∧ k = (unifyNewlines a).count '\n' + 1

/-- However a line ends, it ends with a line feed when it is read. -/
theorem unifyNewlines_lineEnd {eol rest : List Char} (h : IsLineEnd eol rest) :
    unifyNewlines (eol ++ rest) = '\n' :: unifyNewlines rest := by
  rcases h with rfl | rfl | ⟨rfl, hrest⟩
  · exact unifyNewlines_cons (by decide) rest
  · rfl
  · exact unifyNewlines_cr hrest

/-- **Where a line starts, the lines before it do not depend on what follows.** -/
theorem splitAtChar_of_startsLine {a b : List Char} (h : StartsLine a b) :
    splitAtChar '\n' (unifyNewlines (a ++ b)) =
      (splitAtChar '\n' (unifyNewlines a)).dropLast ++ splitAtChar '\n' (unifyNewlines b) := by
  rcases h with rfl | ⟨cs, eol, rfl, heol⟩
  · rfl
  · have hlast : (cs ++ eol).getLast? = some '\n' ∨
        (cs ++ eol).getLast? = some '\r' ∧ b.head? ≠ some '\n' := by
      rcases heol with rfl | rfl | ⟨rfl, hb⟩
      · simp
      · simp
      · exact .inr ⟨by simp, hb⟩
    obtain ⟨front, hfront⟩ := exists_unifyNewlines_concat (hlast.imp id And.left)
    -- a carriage return at the cut is a line end of its own
    have hmeet : (cs ++ eol).getLast? = some '\r' → b.head? ≠ some '\n' := by
      intro hcr
      rcases hlast with hlf | hlast
      · rw [hcr] at hlf
        cases hlf
      · exact hlast.2
    rw [unifyNewlines_append hmeet, hfront, List.append_assoc, List.singleton_append,
      splitAtChar_append_cons, splitAtChar_append_cons]
    rw [show splitAtChar '\n' ([] : List Char) = [[]] from rfl, List.dropLast_concat]

/-- The lines of a line and what follows its end. -/
theorem splitAtChar_line_append {line eol rest : List Char} (hlf : '\n' ∉ line) (hcr : '\r' ∉ line)
    (heol : IsLineEnd eol rest) :
    splitAtChar '\n' (unifyNewlines (line ++ eol ++ rest)) =
      line :: splitAtChar '\n' (unifyNewlines rest) := by
  have hmeet : line.getLast? = some '\r' → (eol ++ rest).head? ≠ some '\n' :=
    fun h => absurd (List.mem_of_getLast? h) hcr
  rw [List.append_assoc, unifyNewlines_append hmeet, unifyNewlines_lineEnd heol,
    unifyNewlines_eq_self hcr, splitAtChar_append_cons, splitAtChar_eq_singleton hlf,
    List.singleton_append]

/-- **The physical lines with the new one among them.** -/
theorem InsertsLine.exists_physicalLines {k : Nat} {line : List Char} {text text' : String}
    (h : InsertsLine k line text text') (hmark : text.toList.head? ≠ some byteOrderMark)
    (hline : line.head? ≠ some byteOrderMark) :
    ∃ front back, physicalLines text = front ++ back ∧
      physicalLines text' = front ++ line :: back ∧ k = front.length + 1 := by
  obtain ⟨a, b, eol, htext, htext', hcut, hnew, heol, hlf, hcr, rfl⟩ := h
  -- a mark in front would be that of the old text, of the line or of its end
  have hmark' : text'.toList.head? ≠ some byteOrderMark := by
    rw [htext']
    rw [htext] at hmark
    cases a with
    | cons c a => exact hmark
    | nil =>
      cases line with
      | cons c line => exact hline
      | nil =>
        intro hhead
        rcases heol with rfl | rfl | ⟨rfl, -⟩
        all_goals exact absurd (Option.some.inj hhead) (by decide)
  refine ⟨(splitAtChar '\n' (unifyNewlines a)).dropLast, splitAtChar '\n' (unifyNewlines b),
    ?_, ?_, ?_⟩
  · rw [physicalLines, dropWhile_byteOrderMark hmark, htext, splitAtChar_of_startsLine hcut]
  · rw [physicalLines, dropWhile_byteOrderMark hmark', htext', splitAtChar_of_startsLine hnew,
      splitAtChar_line_append hlf hcr heol]
  · rw [List.length_dropLast, length_splitAtChar, Nat.add_sub_cancel]

section Dropping

variable {p : Char → Bool} (hp : p '\n' = false ∧ p '\r' = false)

include hp

/-- What is dropped in front of a text, if it has no line ends, leaves all of them. -/
theorem count_unifyNewlines_dropWhile (cs : List Char) :
    (unifyNewlines (cs.dropWhile p)).count '\n' = (unifyNewlines cs).count '\n' := by
  induction cs with
  | nil => rfl
  | cons c cs ih =>
    by_cases hc : p c = true
    · have hfeed : c ≠ '\n' := by
        rintro rfl
        rw [hp.1] at hc
        cases hc
      have hreturn : c ≠ '\r' := by
        rintro rfl
        rw [hp.2] at hc
        cases hc
      rw [List.dropWhile_cons_of_pos hc, ih, unifyNewlines_cons hreturn,
        List.count_cons_of_ne hfeed]
    · rw [List.dropWhile_cons_of_neg hc]

/-- Where a line starts below the first one, what is dropped in front of the text is dropped
in front of the lines above. -/
theorem StartsLine.dropWhile {a b : List Char} (hne : a ≠ []) (h : StartsLine a b) :
    (a ++ b).dropWhile p = a.dropWhile p ++ b ∧ StartsLine (a.dropWhile p) b := by
  obtain ⟨cs, eol, rfl, heol⟩ := h.resolve_left hne
  obtain ⟨c, rest, hc, rfl⟩ : ∃ c rest, p c = false ∧ eol = c :: rest := by
    rcases heol with rfl | rfl | ⟨rfl, -⟩
    · exact ⟨'\n', [], hp.1, rfl⟩
    · exact ⟨'\r', ['\n'], hp.2, rfl⟩
    · exact ⟨'\r', [], hp.2, rfl⟩
  rw [List.append_assoc, List.cons_append, dropWhile_append_cons hc, dropWhile_append_cons hc,
    List.append_assoc, List.cons_append]
  exact ⟨rfl, .inr ⟨_, _, rfl, heol⟩⟩

end Dropping

/-- The same for a new line that is not the first one. The text may have marks in front
then, since they stay where they are. -/
theorem InsertsLine.exists_physicalLines_below {n : Nat} {line : List Char} {text text' : String}
    (h : InsertsLine (n + 2) line text text') :
    ∃ front back, physicalLines text = front ++ back ∧
      physicalLines text' = front ++ line :: back ∧ front.length = n + 1 := by
  obtain ⟨a, b, eol, htext, htext', hcut, hnew, heol, hlf, hcr, hk⟩ := h
  have hne : a ≠ [] := by
    rintro rfl
    simp [unifyNewlines] at hk
  have hmark : ('\n' == Char.ofNat 0xFEFF) = false ∧ ('\r' == Char.ofNat 0xFEFF) = false := by
    decide
  have hdrop := StartsLine.dropWhile (p := (· == Char.ofNat 0xFEFF)) hmark hne hcut
  have hdrop' := StartsLine.dropWhile (p := (· == Char.ofNat 0xFEFF)) hmark hne hnew
  have hcount := count_unifyNewlines_dropWhile (p := (· == Char.ofNat 0xFEFF)) hmark a
  refine ⟨(splitAtChar '\n' (unifyNewlines (a.dropWhile (· == Char.ofNat 0xFEFF)))).dropLast,
    splitAtChar '\n' (unifyNewlines b), ?_, ?_, ?_⟩
  · rw [physicalLines, htext, hdrop.1, splitAtChar_of_startsLine hdrop.2]
  · rw [physicalLines, htext', hdrop'.1, splitAtChar_of_startsLine hdrop'.2,
      splitAtChar_line_append hlf hcr heol]
  · rw [List.length_dropLast, length_splitAtChar, hcount]
    omega

/-! ## The new line in the assembly -/

/-- The logical line after one more line is put in front of line `k`. -/
def LogicalLine.moveDown (k : Nat) (l : LogicalLine) : LogicalLine :=
  { l with line := lineAfterInsertion k l.line }

/-- The entry after one more line is put in front of line `k`. -/
def Positioned.moveDown (k : Nat) (p : Positioned) : Positioned :=
  { p with line := lineAfterInsertion k p.line }

/-- The line is part of the layout: it is blank, or a comment that is no pragma. -/
def IsFiller (line : List Char) : Prop :=
  allBlank line = true ∨
    ∃ text, trim line = '#' :: text ∧ Pragmas.pragmaBody? (String.ofList (trim text)) = none

/-- The instruction is a comment that is no pragma. -/
def Instruction.IsSilent (i : Instruction) : Prop :=
  ∃ text, i = .comment text ∧ Pragmas.pragmaBody? text = none

/-- An entry below the new line moves down. -/
theorem positioned_moveDown (k : Nat) {l : LogicalLine} {p : Positioned}
    (h : l.positioned = .ok p) : (l.moveDown k).positioned = .ok (p.moveDown k) := by
  rw [positioned_eq_ok_iff] at h ⊢
  obtain ⟨hinstruction, hline, hsource⟩ := h
  exact ⟨hinstruction, congrArg (lineAfterInsertion k) hline, hsource⟩

/-- **Where nothing is open, a line of the layout leaves nothing open** and at most a
comment that says nothing. -/
theorem step_of_isFiller {line : List Char} (h : IsFiller line) (number : Nat) :
    ∃ new, Assembly.idle.step number line = (.idle, new) ∧
      ∀ l ∈ new, ∃ i, l.instruction = .ok i ∧ i.IsSilent := by
  by_cases hblank : allBlank line = true
  · exact ⟨none, by rw [Assembly.step, if_pos hblank], fun _ hl => (nomatch hl)⟩
  · obtain ⟨text, htext, hpragma⟩ := h.resolve_left hblank
    have hcomment : isCommentLine line = true := by rw [isCommentLine, htext]; rfl
    refine ⟨some ⟨number, trim line, [line], []⟩, ?_, fun l hl => ?_⟩
    · rw [Assembly.step, if_neg hblank, if_pos hcomment]
    · cases hl
      refine ⟨.comment (String.ofList (trim text)), ?_, _, rfl, hpragma⟩
      rw [LogicalLine.instruction, htext]
      rfl

theorem StartsLogicalLine.le_length {lines : List (List Char)} {line : Nat}
    (h : StartsLogicalLine lines line) : line ≤ lines.length := by
  obtain ⟨front, raw, back, rfl, rfl, -⟩ := h
  rw [List.length_append, List.length_cons]
  omega

/-- Where a logical line starts, none is open. -/
theorem walk_idle_of_startsLogicalLine {front back : List (List Char)}
    (h : StartsLogicalLine (front ++ back) (front.length + 1)) :
    (Assembly.idle.walk 1 front).1 = .idle := by
  obtain ⟨front', raw, back', hlines, hlength, hwalk, -⟩ := h
  obtain rfl : front = front' := (List.append_inj hlines (by omega)).1
  exact hwalk

/-- **The logical lines after a new line of the layout**: those above it where they were,
and those below it a line further down. -/
theorem logicalLines_insert {front back : List (List Char)} {line : List Char}
    (hline : IsFiller line) {entries : List LogicalLine}
    (hidle : (Assembly.idle.walk 1 front).1 = .idle)
    (hentries : logicalLines (front ++ back) = entries.map .ok) :
    ∃ above new below, entries = above ++ below ∧
      (∀ l ∈ new, ∃ i, LogicalLine.instruction l = .ok i ∧ i.IsSilent) ∧
      logicalLines (front ++ line :: back) =
        (above.map (LogicalLine.moveDown (front.length + 1)) ++ new ++
          below.map (LogicalLine.moveDown (front.length + 1))).map .ok := by
  obtain ⟨new, hstep, hnew⟩ := step_of_isFiller hline (1 + front.length)
  rw [logicalLines, Assembly.run_append, hidle] at hentries
  obtain ⟨above, below, rfl, habove, hbelow⟩ := List.map_eq_append_iff.mp hentries.symm
  obtain rfl : above = (Assembly.idle.walk 1 front).2 :=
    (List.map_inj_right fun _ _ => Except.ok.inj).mp habove
  refine ⟨_, new.toList, below, rfl, fun l hl => hnew l (Option.mem_toList.mp hl), ?_⟩
  -- what is complete above the new line starts above it, and stays
  have hmoveAbove : ∀ l ∈ (Assembly.idle.walk 1 front).2, l.moveDown (front.length + 1) = l := by
    intro l hl
    have hle := ((Assembly.startsLogicalLine_of_walk front).2 l hl).le_length
    rw [LogicalLine.moveDown, lineAfterInsertion, if_neg (by omega)]
  -- all else starts at the line or below, and moves
  have hmoveBelow : ∀ l ∈ below, l.moveDown (front.length + 1) = l.shift 1 := by
    intro l hl
    have hle := ((run_eq_ok_iff_tiling _ below back).mp hbelow.symm).number_le l hl
    rw [LogicalLine.moveDown, lineAfterInsertion, if_pos (by omega)]
    rfl
  have hrun : Assembly.idle.run (1 + front.length + 1) back =
      (below.map (LogicalLine.shift 1)).map .ok := by
    have hshift := Assembly.run_shift 1 .idle (1 + front.length) back
    rw [← hbelow] at hshift
    rw [show Assembly.idle.run _ back = _ from hshift, List.map_map, List.map_map]
    rfl
  rw [logicalLines, Assembly.run_append, hidle, Assembly.run, hstep,
    List.map_congr_left hmoveAbove, List.map_congr_left hmoveBelow, List.map_id']
  cases new with
  | none =>
    dsimp only
    rw [hrun, Option.toList_none, List.append_nil, List.map_append]
  | some l =>
    dsimp only
    rw [hrun, Option.toList_some, List.map_append, List.map_append, List.append_assoc]
    rfl

/-! ## The new line in the document -/

/-- A blank line or a comment does not begin with the mark. -/
theorem head?_ne_byteOrderMark_of_isFiller {line : List Char} (h : IsFiller line) :
    line.head? ≠ some byteOrderMark := by
  intro hhead
  cases line with
  | nil => cases hhead
  | cons c line =>
    have hmark : isBlank byteOrderMark = false := by decide
    rw [Option.some.inj hhead] at h
    rcases h with h | ⟨text, htext, -⟩
    · simp [allBlank, hmark] at h
    · rw [trim_cons hmark] at htext
      exact absurd (List.cons.inj htext).1 (by decide)

/-- **A document with a line of the layout put in front of one of its entries** has the
same entries, those from there on a line further down, and at most one more that says
nothing. -/
theorem parse_insertLine {k : Nat} {line : List Char} {text text' : String}
    (hmark : text.toList.head? ≠ some byteOrderMark) (hinsert : InsertsLine k line text text')
    (hline : IsFiller line) {entries : List Positioned} (hparse : parse text = .ok entries)
    (hk : ∃ p ∈ entries, p.line = k) :
    ∃ above new below, entries = above ++ below ∧ (∀ p ∈ new, p.instruction.IsSilent) ∧
      parse text' =
        .ok (above.map (Positioned.moveDown k) ++ new ++ below.map (Positioned.moveDown k)) := by
  obtain ⟨front, back, htext, htext', rfl⟩ :=
    hinsert.exists_physicalLines hmark (head?_ne_byteOrderMark_of_isFiller hline)
  obtain ⟨ls, hrun, hls⟩ := mapM_bind_eq_ok_iff.mp hparse
  obtain ⟨p, hp, hpline⟩ := hk
  obtain ⟨l, hl, hlp⟩ := exists_of_mem_right hls hp
  -- an entry starts at `k`, so nothing is open where the line is put
  have hstarts : StartsLogicalLine (front ++ back) (front.length + 1) := by
    rw [← hpline, ← (positioned_eq_ok_iff.mp hlp).2.1, ← htext]
    exact startsLogicalLine_of_ok (by rw [hrun]; exact List.mem_map_of_mem hl)
  rw [htext] at hrun
  obtain ⟨above, new, below, rfl, hnew, hrun'⟩ :=
    logicalLines_insert hline (walk_idle_of_startsLogicalLine hstarts) hrun
  obtain ⟨as, bs, rfl, has, hbs⟩ := exists_append_of_forall₂ hls
  obtain ⟨comments, hcomments⟩ : ∃ comments,
      List.Forall₂ (fun l p => LogicalLine.positioned l = .ok p) new comments := by
    obtain ⟨comments, hmapM⟩ := exists_mapM_eq_ok_iff.mpr fun l hl => by
      obtain ⟨i, hi, -⟩ := hnew l hl
      exact ⟨⟨i, l.line, String.ofList l.source⟩, positioned_eq_ok_iff.mpr ⟨hi, rfl, rfl⟩⟩
    exact ⟨comments, mapM_eq_ok_iff.mp hmapM⟩
  refine ⟨as, comments, bs, rfl, fun q hq => ?_, ?_⟩
  · obtain ⟨m, hm, hmq⟩ := exists_of_mem_right hcomments hq
    obtain ⟨i, hi, hsilent⟩ := hnew m hm
    rw [(positioned_eq_ok_iff.mp hmq).1] at hi
    rwa [Except.ok.inj hi]
  · have hmove : ∀ {ms : List LogicalLine} {ps : List Positioned},
        List.Forall₂ (fun l p => LogicalLine.positioned l = .ok p) ms ps →
        List.Forall₂ (fun l p => LogicalLine.positioned l = .ok p)
          (ms.map (LogicalLine.moveDown (front.length + 1)))
          (ps.map (Positioned.moveDown (front.length + 1))) := by
      intro ms ps h
      rw [List.forall₂_map_left_iff, List.forall₂_map_right_iff]
      exact h.imp fun _ _ => positioned_moveDown _
    rw [parse, htext', mapM_bind_eq_ok_iff]
    exact ⟨_, hrun', List.rel_append (List.rel_append (hmove has) hcomments) (hmove hbs)⟩

end Dockerfile

end ContainerLint
