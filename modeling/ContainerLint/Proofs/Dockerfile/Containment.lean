/-
How the reading of a document can fail.

An error that names a line names the first line of a logical line: the assembly keeps
where the line that it has open starts, and the readers of instructions are told. The
other kind of error, a run of digits that is no number, needs a document that has such a
run, for the assembly puts stretches of the document together with blanks and line ends
between them.
-/
import ContainerLint.Proofs.Dockerfile.Document
import ContainerLint.Proofs.Dockerfile.Numbers

namespace ContainerLint.Dockerfile

open ContainerLint.Text

/-! ## Where logical lines start -/

/-- A logical line starts at the line: after the lines before it none is open, and the
line is not blank. -/
def StartsLogicalLine (lines : List (List Char)) (line : Nat) : Prop :=
  ∃ front raw back, lines = front ++ raw :: back ∧ line = front.length + 1 ∧
    (Assembly.idle.walk 1 front).1 = .idle ∧ allBlank raw = false

theorem StartsLogicalLine.append {lines : List (List Char)} {line : Nat}
    (h : StartsLogicalLine lines line) (more : List (List Char)) :
    StartsLogicalLine (lines ++ more) line := by
  obtain ⟨front, raw, back, rfl, hline, hwalk, hraw⟩ := h
  exact ⟨front, raw, back ++ more, by rw [List.append_assoc, List.cons_append], hline, hwalk, hraw⟩

namespace Assembly

/-- A physical line that does not stay skipped belongs to the logical line that is open,
or starts one. -/
theorem startsLogicalLine_concat {front : List (List Char)} {raw : List Char}
    (hopen : ∀ m, (idle.walk 1 front).1 ≠ .idle →
      StartsLogicalLine front ((idle.walk 1 front).1.start m))
    (hkept : (idle.walk 1 front).1 = .idle → allBlank raw = false) :
    StartsLogicalLine (front ++ [raw]) ((idle.walk 1 front).1.start (1 + front.length)) := by
  by_cases hidle : (idle.walk 1 front).1 = .idle
  · rw [hidle, start, Nat.add_comm]
    exact ⟨front, raw, [], rfl, rfl, hidle, hkept hidle⟩
  · exact (hopen _ hidle).append [raw]

/-- **Along a walk, the logical line that is open and those that are complete start at
lines of the document.** The induction is on the lines from the back, so that the step is
that of the last one. -/
theorem startsLogicalLine_of_walk (lines : List (List Char)) :
    (∀ m, (idle.walk 1 lines).1 ≠ .idle → StartsLogicalLine lines ((idle.walk 1 lines).1.start m)) ∧
      ∀ l ∈ (idle.walk 1 lines).2, StartsLogicalLine lines l.line := by
  induction lines using List.reverseRecOn with
  | nil => exact ⟨fun _ h => absurd rfl h, fun _ h => (nomatch h)⟩
  | append_singleton front raw ih =>
    obtain ⟨hopen, hdone⟩ := ih
    simp only [walk_append, walk, List.append_nil]
    generalize hstate : (idle.walk 1 front).1 = state
    -- an idle assembly skips blank lines, so a line that it does not skip starts one
    have hblank : state = .idle → allBlank raw = true →
        state.step (1 + front.length) raw = (.idle, none) := by
      rintro rfl hraw
      simp only [step, hraw, if_true]
    have hstart : (state = .idle → allBlank raw = false) →
        StartsLogicalLine (front ++ [raw]) (state.start (1 + front.length)) := by
      intro hkept
      rw [← hstate] at hkept ⊢
      exact startsLogicalLine_concat hopen hkept
    have hdone' : ∀ l ∈ (idle.walk 1 front).2, StartsLogicalLine (front ++ [raw]) l.line :=
      fun l hl => (hdone l hl).append [raw]
    generalize hnext : state.step (1 + front.length) raw = result at hblank
    have hfate := hnext ▸ step_fate state (1 + front.length) raw
    cases hfate with
    | skipped hidle hraw => exact ⟨fun _ h => absurd rfl h, by simpa using hdone'⟩
    | kept next hne hpending hnextStart =>
      refine ⟨fun m _ => ?_, by simpa using hdone'⟩
      rw [hnextStart m]
      refine hstart fun hidle => ?_
      by_contra hraw
      exact hne (congrArg Prod.fst (hblank hidle (by simpa using hraw)))
    | completed l hphysical hline =>
      refine ⟨fun _ h => absurd rfl h, ?_⟩
      intro l' hl'
      rcases List.mem_append.mp hl' with hl' | hl'
      · exact hdone' l' hl'
      · simp only [Option.toList_some, List.mem_singleton] at hl'
        rw [hl', hline]
        refine hstart fun hidle => ?_
        by_contra hraw
        exact absurd (congrArg Prod.snd (hblank hidle (by simpa using hraw))) (by simp)

/-- An error of the assembly names the line where the open logical line starts. -/
theorem error_of_mem_finish {state : Assembly} {e : ParseError} (h : .error e ∈ state.finish)
    (m : Nat) : state ≠ .idle ∧ ∃ fault, e = .malformed fault (state.start m) none := by
  cases state with
  | idle => cases h
  | joining line physical parts =>
    refine ⟨by simp, ?_⟩
    simp only [finish] at h
    split at h
    next => cases List.mem_singleton.mp h
    next =>
      cases List.mem_singleton.mp h
      exact ⟨_, rfl⟩
  | heredoc line text physical marker waiting body bodies =>
    cases List.mem_singleton.mp h
    exact ⟨by simp, _, rfl⟩

end Assembly

/-- A logical line starts where it says. -/
theorem startsLogicalLine_of_ok {lines : List (List Char)} {l : LogicalLine}
    (h : .ok l ∈ logicalLines lines) : StartsLogicalLine lines l.line := by
  obtain ⟨hopen, hdone⟩ := Assembly.startsLogicalLine_of_walk lines
  rw [logicalLines, Assembly.run_eq_walk] at h
  rcases List.mem_append.mp h with h | h
  · obtain ⟨l', hl', hok⟩ := List.mem_map.mp h
    cases hok
    exact hdone l hl'
  · rcases Assembly.finish_cases (Assembly.idle.walk 1 lines).1 with
      ⟨-, hfinish⟩ | ⟨l', hfinish, -, hline⟩ | ⟨e, hfinish⟩
    · rw [hfinish] at h
      cases h
    · rw [hfinish] at h
      cases List.mem_singleton.mp h
      rw [hline 0]
      refine hopen 0 fun hidle => ?_
      rw [hidle] at hfinish
      cases hfinish
    · rw [hfinish] at h
      cases List.mem_singleton.mp h

/-- An error of the lines names the start of a logical line, and no column. -/
theorem startsLogicalLine_of_error {lines : List (List Char)} {e : ParseError}
    (h : .error e ∈ logicalLines lines) :
    ∃ fault line, e = .malformed fault line none ∧ StartsLogicalLine lines line := by
  rw [logicalLines, Assembly.run_eq_walk] at h
  rcases List.mem_append.mp h with h | h
  · simp at h
  · obtain ⟨hne, fault, rfl⟩ := Assembly.error_of_mem_finish h 0
    exact ⟨fault, _, rfl, (Assembly.startsLogicalLine_of_walk lines).1 0 hne⟩

/-! ## Digits of logical lines -/

namespace Assembly

/-- What the assembly has of the current logical line has plain digits. -/
def IsPlain : Assembly → Prop
  | .idle => True
  | .joining _ _ parts => ∀ part ∈ parts, HasPlainDigits part
  | .heredoc _ text _ _ _ body bodies =>
    HasPlainDigits text ∧ (∀ row ∈ body, HasPlainDigits row) ∧ ∀ b ∈ bodies, HasPlainDigits b

/-- What a step goes on with and what it completes have plain digits. -/
def StepIsPlain (result : Assembly × Option LogicalLine) : Prop :=
  result.1.IsPlain ∧ ∀ l ∈ result.2, l.IsPlain

theorem stepIsPlain_of_open {state : Assembly} (h : state.IsPlain) : StepIsPlain (state, none) :=
  ⟨h, fun l hl => absurd hl (Option.not_mem_none l)⟩

/-- Parts are joined by blanks, which join no digits. -/
theorem hasPlainDigits_joinParts {parts : List (List Char)}
    (h : ∀ part ∈ parts, HasPlainDigits part) : HasPlainDigits (joinParts parts) := by
  refine .join (by decide) fun piece hpiece => ?_
  obtain ⟨part, hpart, rfl⟩ := List.mem_map.mp (List.mem_filter.mp hpiece).1
  exact (h part hpart).of_isInfix (infix_trim part)

/-- Completing the text adds no digits. -/
theorem afterText_isPlain {text : List Char} {bodies : List (List Char)}
    (htext : HasPlainDigits text) (hbodies : ∀ b ∈ bodies, HasPlainDigits b) (line : Nat)
    (physical : List (List Char)) (waiting : List Marker) :
    StepIsPlain (afterText line text physical waiting bodies) := by
  cases waiting with
  | nil =>
    refine ⟨trivial, fun l hl => ?_⟩
    cases hl
    exact ⟨htext, fun body hbody => hbodies body (List.mem_reverse.mp hbody)⟩
  | cons marker waiting =>
    exact stepIsPlain_of_open ⟨htext, List.forall_mem_nil _, hbodies⟩

/-- The part before a backslash is a stretch of its line. -/
theorem infix_of_continued? {raw front : List Char} (h : continued? raw = some front) :
    front <:+: raw := by
  unfold continued? at h
  split at h
  next rest hrest =>
    cases h
    have hreverse : rest.reverse ++ ['\\'] = trimRight raw := by
      rw [← List.reverse_cons, ← hrest, List.reverse_reverse]
    have hfront : rest.reverse <:+: trimRight raw := hreverse ▸ (List.prefix_append _ _).isInfix
    exact hfront.trans (infix_dropBack isBlank raw)
  next => cases h

/-- Adding a part adds none but its own. -/
theorem addPart_isPlain {parts : List (List Char)} {raw : List Char}
    (hparts : ∀ part ∈ parts, HasPlainDigits part) (hraw : HasPlainDigits raw) (line : Nat)
    (physical : List (List Char)) : StepIsPlain (addPart line physical parts raw) := by
  unfold addPart
  cases hcontinued : continued? raw with
  | some front =>
    refine stepIsPlain_of_open ?_
    rw [IsPlain, List.forall_mem_cons]
    exact ⟨hraw.of_isInfix (infix_of_continued? hcontinued), hparts⟩
  | none =>
    refine afterText_isPlain (hasPlainDigits_joinParts ?_) (List.forall_mem_nil _) _ _ _
    intro part hpart
    rw [List.mem_reverse, List.mem_cons] at hpart
    rcases hpart with rfl | hpart
    · exact hraw.of_isInfix (infix_dropBack isBlank raw)
    · exact hparts part hpart

/-- No step makes digits that are not plain. -/
theorem step_isPlain {state : Assembly} (hstate : state.IsPlain) {raw : List Char}
    (hraw : HasPlainDigits raw) (number : Nat) : StepIsPlain (state.step number raw) := by
  cases state with
  | idle =>
    simp only [step]
    split
    next => exact stepIsPlain_of_open trivial
    next =>
      split
      next =>
        refine ⟨trivial, fun l hl => ?_⟩
        cases hl
        exact ⟨hraw.of_isInfix (infix_trim raw), List.forall_mem_nil _⟩
      next => exact addPart_isPlain (List.forall_mem_nil _) hraw number []
  | joining line physical parts =>
    simp only [step]
    split
    next => exact stepIsPlain_of_open hstate
    next => exact addPart_isPlain hstate hraw line physical
  | heredoc line text physical marker waiting body bodies =>
    obtain ⟨htext, hbody, hbodies⟩ := hstate
    simp only [step]
    split
    next =>
      refine afterText_isPlain htext ?_ line _ waiting
      rw [List.forall_mem_cons]
      exact ⟨.join (by decide) fun row hrow => hbody row (List.mem_reverse.mp hrow), hbodies⟩
    next =>
      refine stepIsPlain_of_open ⟨htext, ?_, hbodies⟩
      rw [List.forall_mem_cons]
      refine ⟨?_, hbody⟩
      -- a row of the body may lose its tabs, which leaves a stretch of it
      unfold Marker.bodyLine
      split
      next => exact hraw.of_isInfix (List.dropWhile_suffix _).isInfix
      next => exact hraw

/-- **Lines with plain digits make logical lines with plain digits.** -/
theorem run_isPlain {state : Assembly} (hstate : state.IsPlain) {lines : List (List Char)}
    (hlines : ∀ raw ∈ lines, HasPlainDigits raw) (number : Nat) {l : LogicalLine}
    (hl : .ok l ∈ state.run number lines) : l.IsPlain := by
  induction lines generalizing state number with
  | nil =>
    cases state with
    | idle => cases hl
    | joining line physical parts =>
      simp only [run, finish] at hl
      split at hl
      next =>
        cases List.mem_singleton.mp hl
        exact ⟨hasPlainDigits_joinParts fun part hpart => hstate part (List.mem_reverse.mp hpart),
          List.forall_mem_nil _⟩
      next => cases List.mem_singleton.mp hl
    | heredoc line text physical marker waiting body bodies => cases List.mem_singleton.mp hl
  | cons raw lines ih =>
    rw [List.forall_mem_cons] at hlines
    -- the state stays plain, and so is the line that the step gives, if it gives one
    have hstep := step_isPlain hstate hlines.1 number
    rw [run] at hl
    rcases hnext : state.step number raw with ⟨next, _ | line⟩
    · rw [hnext] at hl hstep
      exact ih hstep.1 hlines.2 _ hl
    · rw [hnext] at hl hstep
      rcases List.mem_cons.mp hl with hl | hl
      · cases hl
        exact hstep.2 _ rfl
      · exact ih hstep.1 hlines.2 _ hl

end Assembly

theorem hasPlainDigits_of_mem_physicalLines {text : String} (h : HasPlainDigits text.toList)
    {raw : List Char} (hraw : raw ∈ physicalLines text) : HasPlainDigits raw :=
  h.of_isInfix (((arePieces_splitAtChar_unifyNewlines _).infix_of_mem hraw).trans
    (List.dropWhile_suffix _).isInfix)

/-- The logical lines of a text with plain digits have plain digits. -/
theorem isPlain_of_mem_logicalLines {text : String} (h : HasPlainDigits text.toList)
    {l : LogicalLine} (hl : .ok l ∈ logicalLines (physicalLines text)) : l.IsPlain := by
  have hidle : Assembly.idle.IsPlain := trivial
  exact Assembly.run_isPlain hidle (fun _ => hasPlainDigits_of_mem_physicalLines h) 1 hl

/-! ## Documents -/

/-- **The two ways in which the reading of a document fails**: at a logical line, or at a
run of digits of the document that is no number. -/
theorem parse_eq_error {text : String} {e : ParseError} (h : parse text = .error e) :
    (∃ fault line column, e = .malformed fault line column ∧
      StartsLogicalLine (physicalLines text) line) ∨
    (∃ n, e = .numeral n) ∧ ¬ HasPlainDigits text.toList := by
  obtain ⟨r, hr, he⟩ := exists_of_mapM_eq_error h
  cases r with
  | error e' =>
    cases he
    obtain ⟨fault, line, rfl, hline⟩ := startsLogicalLine_of_error hr
    exact .inl ⟨fault, line, none, rfl, hline⟩
  | ok l =>
    simp only [Except.bind, LogicalLine.positioned] at he
    split at he
    next => cases he
    next e' hinstruction =>
      cases he
      cases e' with
      | fault cause column => exact .inl ⟨cause, l.line, column, rfl, startsLogicalLine_of_ok hr⟩
      | numeral n =>
        refine .inr ⟨⟨n, rfl⟩, fun hplain => ?_⟩
        -- with plain digits the reading would be a success or a fault
        have hread := (isPlain_of_mem_logicalLines hplain hr).numbersRead
        rw [hinstruction] at hread
        cases hread

/-- What is copied from in a document with plain digits has plain digits. -/
theorem hasPlainOrigin_of_parse {text : String} {entries : List Positioned}
    (hplain : HasPlainDigits text.toList) (h : parse text = .ok entries) {p : Positioned}
    (hp : p ∈ entries) : p.instruction.HasPlainOrigin := by
  obtain ⟨ls, hrun, hls⟩ := mapM_bind_eq_ok_iff.mp h
  obtain ⟨l, hl, hlp⟩ := exists_of_mem_right hls hp
  have hmem : .ok l ∈ logicalLines (physicalLines text) := by
    rw [hrun]
    exact List.mem_map_of_mem hl
  have hread := (isPlain_of_mem_logicalLines hplain hmem).numbersRead
  rw [(positioned_eq_ok_iff.mp hlp).1] at hread
  cases hread with
  | ok horigin => exact horigin

end ContainerLint.Dockerfile
