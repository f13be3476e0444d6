/-
An empty line inside a header.

A header goes on below a backslash, and comments below it are passed over. A blank line is
not: it is taken as a further part that says nothing, and since no backslash stands on it,
the header ends there. So what follows a blank line is read as if a new instruction started
there, and a blank line that is put below a backslash cuts the header in two. Where the
header ended anyway, because the next line is blank as well, nothing changes.

What changes otherwise is seen by counting. The lines of a document that are not blank are
those of its entries. A header without heredocs has lost its next line to another entry. One
that calls for heredocs has it still, but as a line of the first body; and nothing has changed
only if the bodies end where they did, and say the same.
-/
import ContainerLint.Proofs.Dockerfile.Header
import ContainerLint.Proofs.Dockerfile.Insertion
import Mathlib.Data.List.Nodup

namespace ContainerLint.Dockerfile

open ContainerLint.Text

/-! ## Heredocs and blank lines

The word of a marker is not empty, so a blank line does not end a heredoc. It goes into the
body, where it says nothing either. -/

namespace Marker

theorem readWord?_ne_nil {cs word rest : List Char} (h : readWord? cs = some (word, rest)) :
    word ≠ [] := by
  unfold readWord? at h
  split at h
  · split at h
    · simp only [Option.some.injEq, Prod.mk.injEq] at h
      rw [← h.1]
      exact List.cons_ne_nil _ _
    · cases h
  · cases h

theorem closeWith_ne_nil {quote : Char} {cs word rest : List Char}
    (h : readQuotedWord?.closeWith quote cs = some (word, rest)) : word ≠ [] := by
  unfold readQuotedWord?.closeWith at h
  split at h
  · next hword =>
    split at h
    · simp only [Option.some.injEq, Prod.mk.injEq] at h
      rw [← h.1]
      exact readWord?_ne_nil hword
    · cases h
  · cases h

theorem readQuotedWord?_ne_nil {cs word rest : List Char}
    (h : readQuotedWord? cs = some (word, rest)) : word ≠ [] := by
  unfold readQuotedWord? at h
  split at h
  · exact closeWith_ne_nil h
  · exact closeWith_ne_nil h
  · exact readWord?_ne_nil h

/-- A marker has a word. -/
theorem word_ne_nil_of_read? {cs rest : List Char} {m : Marker} (h : read? cs = some (m, rest)) :
    m.word ≠ [] := by
  unfold read? at h
  split at h
  · obtain ⟨⟨word, more⟩, hword, hm⟩ := Option.map_eq_some_iff.mp h
    cases hm
    exact readQuotedWord?_ne_nil hword
  · obtain ⟨⟨word, more⟩, hword, hm⟩ := Option.map_eq_some_iff.mp h
    cases hm
    exact readQuotedWord?_ne_nil hword
  · cases h

/-- All markers that are found have a word. -/
theorem word_ne_nil_of_mem_findFrom {m : Marker} {afterAngle : Bool} {skip : Nat}
    {cs : List Char} (h : m ∈ findFrom afterAngle skip cs) : m.word ≠ [] := by
  induction cs generalizing afterAngle skip with
  | nil => simp [findFrom] at h
  | cons c cs ih =>
    cases skip with
    | succ skip => exact ih h
    | zero =>
      rw [findFrom] at h
      split at h
      next marker rest hread =>
        rcases List.mem_cons.mp h with rfl | h
        · split at hread
          · cases hread
          · exact word_ne_nil_of_read? hread
        · exact ih h
      next => exact ih h

/-- A blank line stays blank in a body. -/
theorem allBlank_bodyLine {raw : List Char} (h : allBlank raw = true) (m : Marker) :
    allBlank (m.bodyLine raw) = true := by
  rw [bodyLine]
  split
  · rw [allBlank, List.all_eq_true] at h ⊢
    exact fun c hc => h c ((List.dropWhile_suffix _).subset hc)
  · exact h

/-- A blank line closes no heredoc. -/
theorem closes_of_allBlank {raw : List Char} (h : allBlank raw = true) {m : Marker}
    (hword : m.word ≠ []) : m.closes raw = false := by
  rw [closes, trimRight_of_allBlank (allBlank_bodyLine h m), beq_eq_false_iff_ne]
  exact hword.symm

end Marker

theorem word_ne_nil_of_mem_markersOf {m : Marker} {text : List Char} (h : m ∈ markersOf text) :
    m.word ≠ [] := by
  unfold markersOf at h
  split at h
  · split at h
    · exact Marker.word_ne_nil_of_mem_findFrom h
    · cases h
  · cases h

/-- A blank line in front of a body adds nothing to its script. -/
theorem scriptOf_join_cons {row : List Char} (hblank : allBlank row = true) (hrow : '\n' ∉ row)
    (rows : List (List Char)) :
    scriptOf (join ['\n'] (row :: rows)) = scriptOf (join ['\n'] rows) := by
  have hsingle := splitAtChar_eq_singleton hrow
  have hdropped : (!allBlank row && !isCommentLine row) = false := by
    rw [hblank, Bool.not_true, Bool.false_and]
  cases rows with
  | nil =>
    have hjoin : join ['\n'] [row] = row := rfl
    rw [hjoin, scriptOf, hsingle, List.filter_singleton, hdropped]
    rfl
  | cons next rows =>
    rw [join_cons_of_ne_nil ['\n'] row (List.cons_ne_nil next rows), List.append_assoc,
      List.singleton_append, scriptOf, splitAtChar_append_cons, hsingle, List.singleton_append,
      List.filter_cons, hdropped]
    rfl

/-- Of a body, an instruction has its script and nothing else. -/
theorem instruction_of_scriptOf {line line' : Nat} {text body body' : List Char}
    {physical physical' bodies : List (List Char)} (h : scriptOf body = scriptOf body') :
    LogicalLine.instruction ⟨line, text, physical, body :: bodies⟩ =
      LogicalLine.instruction ⟨line', text, physical', body' :: bodies⟩ := by
  have hinline : ∀ text, inlineHeredoc text body = inlineHeredoc text body' := by
    intro text
    simp only [inlineHeredoc, h]
  simp only [LogicalLine.instruction, hinline]

/-! ## Blank lines in the assembly -/

namespace Assembly

variable {raw : List Char}

/-- A blank part does not show in the text. -/
theorem joinParts_blank_cons (h : allBlank raw = true) (parts : List (List Char)) :
    joinParts (raw :: parts).reverse = joinParts parts.reverse := by
  simp only [joinParts, List.reverse_cons, List.map_append, List.map_cons, List.map_nil,
    List.filter_append, trim_of_allBlank h]
  simp

/-- **A blank line ends a header that a backslash has left open.** -/
theorem step_joining_blank (h : allBlank raw = true) (line number : Nat)
    (physical parts : List (List Char)) :
    (joining line physical parts).step number raw =
      afterText line (joinParts parts.reverse) (raw :: physical)
        (markersOf (joinParts parts.reverse)) [] := by
  have hcomment : isCommentLine raw = false := by rw [isCommentLine, trim_of_allBlank h]; rfl
  have hlast : (trimRight raw).getLast? ≠ some '\\' := by rw [trimRight_of_allBlank h]; simp
  rw [step, if_neg (by rw [hcomment]; decide), addPart_last hlast, joinParts_blank_cons h]

/-- What a blank line behind a complete header changes: the lines of the logical line, and a
body that has the same script. -/
theorem runFrom_afterText_blank (h : allBlank raw = true) (hraw : '\n' ∉ raw) (text : List Char)
    {waiting : List Marker} (hwaiting : ∀ m ∈ waiting, m.word ≠ []) (lines : List (List Char)) :
    (∃ bodies bodies' tail tail' back,
      (∀ line physical number,
        runFrom (afterText line text physical waiting []) number lines =
            .ok ⟨line, text, physical.reverse ++ tail, bodies⟩ ::
              idle.run (number + tail.length) back ∧
        runFrom (afterText line text physical waiting []) number (raw :: lines) =
            .ok ⟨line, text, physical.reverse ++ tail', bodies'⟩ ::
              idle.run (number + tail.length + 1) back) ∧
      ∀ line line' physical physical',
        LogicalLine.instruction ⟨line, text, physical, bodies⟩ =
          LogicalLine.instruction ⟨line', text, physical', bodies'⟩) ∨
    ∃ word, ∀ line physical number,
      runFrom (afterText line text physical waiting []) number lines =
        [.error (.malformed (.unterminatedHeredoc word) line none)] := by
  rcases exists_takeBodies_or_error waiting lines with ⟨tail, back, bodies, rfl, h'⟩ | ⟨word, hrun⟩
  · cases h' with
    | none =>
      refine .inl ⟨[], [], [], [], back, fun line physical number => ⟨?_, ?_⟩, fun _ _ _ _ => rfl⟩
      · rw [List.append_nil]
        rfl
      · rw [List.append_nil, afterText, runFrom, run_cons, step, if_pos h]
        rfl
    | @body marker waiting rows tail bodies closing hrows hclosing hrest =>
      have hcloses : marker.closes raw = false :=
        Marker.closes_of_allBlank h (hwaiting marker List.mem_cons_self)
      have hbody : '\n' ∉ marker.bodyLine raw := by
        rw [Marker.bodyLine]
        split
        · exact fun hc => hraw ((List.dropWhile_suffix _).subset hc)
        · exact hraw
      -- the line is the first one of the first body
      have hfirst := TakeBodies.body (List.forall_mem_cons.mpr ⟨hcloses, hrows⟩) hclosing hrest
      refine .inl ⟨join ['\n'] (rows.map marker.bodyLine) :: bodies,
        join ['\n'] ((raw :: rows).map marker.bodyLine) :: bodies,
        rows ++ closing :: tail, raw :: rows ++ closing :: tail, back,
        fun line physical number => ⟨?_, ?_⟩, fun _ _ _ _ => ?_⟩
      · exact runFrom_of_takeBodies (.body hrows hclosing hrest) line text physical [] number back
      · exact runFrom_of_takeBodies hfirst line text physical [] number back
      · exact (instruction_of_scriptOf (scriptOf_join_cons (Marker.allBlank_bodyLine h marker)
          hbody (rows.map marker.bodyLine))).symm
  · exact .inr ⟨word, fun line physical number => hrun line text physical [] number⟩

/-- A run from a state in which a logical line is open goes on with it first, and then with
nothing open. The induction is on the lines; what is pending grows until the logical line is
complete. -/
theorem exists_of_run_open {state : Assembly} (hopen : state ≠ .idle) {number : Nat}
    {lines : List (List Char)} {entries : List LogicalLine}
    (hrun : state.run number lines = entries.map .ok) :
    ∃ l rest tail back, entries = l :: rest ∧ l.line = state.start number ∧
      l.physical = state.pending ++ tail ∧ tail.head? = lines.head? ∧ lines = tail ++ back ∧
      idle.run (number + tail.length) back = rest.map .ok := by
  induction lines generalizing state number with
  | nil =>
    rcases finish_cases state with ⟨hidle, -⟩ | ⟨l, hfinish, hphysical, hline⟩ | ⟨e, hfinish⟩
    · exact absurd hidle hopen
    · rw [run, hfinish] at hrun
      obtain ⟨m, rfl, hm⟩ := List.map_eq_singleton_iff.mp hrun.symm
      obtain rfl : m = l := Except.ok.inj hm
      exact ⟨m, [], [], [], rfl, hline number, by rw [hphysical, List.append_nil], rfl, rfl, rfl⟩
    · rw [run, hfinish] at hrun
      obtain ⟨m, rfl, hm⟩ := List.map_eq_singleton_iff.mp hrun.symm
      cases hm
  | cons raw lines ih =>
    -- the line is kept or completes the entry: an open state skips nothing
    have hfate := step_fate state number raw
    rw [run] at hrun
    generalize state.step number raw = outcome at hfate hrun
    cases hfate with
    | skipped hidle hblank => exact absurd hidle hopen
    | kept next hnext hpending hstart =>
      obtain ⟨l, rest, tail, back, rfl, hline, hphysical, -, rfl, hback⟩ := ih hnext hrun
      refine ⟨l, rest, raw :: tail, back, rfl, hline.trans (hstart _), ?_, rfl, rfl, ?_⟩
      · rw [hphysical, hpending, List.append_assoc, List.singleton_append]
      · rw [← hback, List.length_cons, Nat.add_right_comm, Nat.add_assoc number]
    | completed l hphysical hline =>
      cases entries with
      | nil => simp at hrun
      | cons m rest =>
        simp only [List.map_cons, List.cons.injEq, Except.ok.injEq] at hrun
        obtain ⟨rfl, hrest⟩ := hrun
        exact ⟨l, rest, [raw], lines, rfl, hline, hphysical, rfl, rfl, hrest⟩

end Assembly

/-! ## Lines that are not blank -/

/-- The number of lines that are not blank. -/
def inkedLines (lines : List (List Char)) : Nat :=
  lines.countP fun raw => !allBlank raw

theorem inkedLines_append (front back : List (List Char)) :
    inkedLines (front ++ back) = inkedLines front + inkedLines back :=
  List.countP_append

theorem inkedLines_cons_blank {raw : List Char} (h : allBlank raw = true)
    (lines : List (List Char)) : inkedLines (raw :: lines) = inkedLines lines :=
  List.countP_cons_of_neg (by simp [h])

/-- Blank lines are passed over where nothing is open. -/
theorem entriesFrom_append_of_inkedLines {blanks : List (List Char)} (h : inkedLines blanks = 0)
    (number : Nat) (lines : List (List Char)) :
    entriesFrom number (blanks ++ lines) = entriesFrom (number + blanks.length) lines := by
  induction blanks generalizing number with
  | nil => rfl
  | cons raw blanks ih =>
    have hall := List.countP_eq_zero.mp h
    have hraw : allBlank raw = true := by simpa using hall raw List.mem_cons_self
    have hrest : inkedLines blanks = 0 :=
      List.countP_eq_zero.mpr fun row hrow => hall row (List.mem_cons_of_mem raw hrow)
    have hskip : entriesFrom number (raw :: (blanks ++ lines)) =
        entriesFrom (number + 1) (blanks ++ lines) := by
      rw [entriesFrom, Assembly.run_cons, Assembly.step, if_pos hraw]
      rfl
    rw [List.cons_append, hskip, ih hrest, List.length_cons, Nat.add_right_comm, Nat.add_assoc]

/-- **Of two cuts of a document with equally many lines before them that are not blank**, the
same entries follow. -/
theorem entriesFrom_of_inkedLines_eq {front front' back back' : List (List Char)}
    (h : front ++ back = front' ++ back') (hink : inkedLines front = inkedLines front')
    (number : Nat) :
    entriesFrom (number + front.length) back = entriesFrom (number + front'.length) back' := by
  -- one of them is further down, and between the two there are blank lines alone
  rcases List.append_eq_append_iff.mp h with ⟨blanks, rfl, rfl⟩ | ⟨blanks, rfl, rfl⟩
  · rw [inkedLines_append] at hink
    rw [entriesFrom_append_of_inkedLines (by omega), List.length_append, Nat.add_assoc]
  · rw [inkedLines_append] at hink
    rw [entriesFrom_append_of_inkedLines (by omega), List.length_append, Nat.add_assoc]

/-- The lines of an entry. -/
def Positioned.rows (p : Positioned) : List (List Char) :=
  splitAtChar '\n' p.source.toList

/-- Lines that are not blank are those of the tiles. -/
theorem Tiling.inkedLines_eq {number : Nat} {entries : List LogicalLine}
    {lines : List (List Char)} (h : Tiling number entries lines) :
    inkedLines lines = inkedLines (entries.flatMap LogicalLine.physical) := by
  induction h with
  | done number => rfl
  | blank hblank htiling ih => rw [inkedLines_cons_blank hblank, ih]
  | entry hreads hclosed htiling ih =>
    rw [List.flatMap_cons, inkedLines_append, inkedLines_append, ih]
  | last hreads => rw [List.flatMap_singleton]

/-- An entry has the lines of its logical line. -/
theorem rows_eq_of_mem {text : String} {xs : List Positioned} (h : parse text = .ok xs)
    {l : LogicalLine} (hl : .ok l ∈ logicalLines (physicalLines text)) {p : Positioned}
    (hp : l.positioned = .ok p) : p.rows = l.physical := by
  obtain ⟨entries, hrun, -⟩ := mapM_bind_eq_ok_iff.mp h
  have htiling := (run_eq_ok_iff_tiling 1 entries _).mp hrun
  rw [hrun] at hl
  obtain ⟨m, hm, hml⟩ := List.mem_map.mp hl
  obtain rfl := Except.ok.inj hml
  rw [Positioned.rows, ← (positioned_eq_ok_iff.mp hp).2.2, String.toList_ofList,
    LogicalLine.source,
    splitAtChar_join (fun raw hraw => (htiling.not_mem_physical m hm raw hraw).1)
      (htiling.readsItself m hm).physical_ne_nil]

/-- **The lines of a document that are not blank are those of its entries.** -/
theorem inkedLines_of_parse {text : String} {xs : List Positioned} (h : parse text = .ok xs) :
    inkedLines (physicalLines text) = inkedLines (xs.flatMap Positioned.rows) := by
  obtain ⟨entries, hrun, hentries⟩ := mapM_bind_eq_ok_iff.mp h
  have hmem : ∀ l ∈ entries, .ok l ∈ logicalLines (physicalLines text) := fun l hl => by
    rw [hrun]
    exact List.mem_map_of_mem hl
  have hmap : entries.map LogicalLine.physical = xs.map Positioned.rows := by
    apply map_eq_map_of_forall₂
    refine ((List.forall₂_and_left _ _).mpr ⟨hmem, hentries⟩).imp fun l p hlp => ?_
    exact (rows_eq_of_mem h hlp.1 hlp.2).symm
  rw [((run_eq_ok_iff_tiling 1 entries _).mp hrun).inkedLines_eq, List.flatMap_def, hmap,
    List.flatMap_def]

/-! ## The blank line in the document -/

/-- How a document falls into entries if its logical lines are known up to one of them. -/
theorem parse_eq_ok_iff_of_logicalLines {text : String} {above : List LogicalLine}
    {l : LogicalLine} {rs : List (Except ParseError LogicalLine)}
    (h : logicalLines (physicalLines text) = above.map .ok ++ .ok l :: rs) {xs : List Positioned} :
    parse text = .ok xs ↔ ∃ as p bs, xs = as ++ p :: bs ∧
      List.Forall₂ (fun l p => LogicalLine.positioned l = .ok p) above as ∧
        l.positioned = .ok p ∧ rs.mapM (fun r => r.bind LogicalLine.positioned) = .ok bs := by
  -- the text is read if all its lines are, so the cut of the lines cuts the entries
  have hinj : Function.Injective (Except.ok : LogicalLine → Except ParseError LogicalLine) :=
    fun _ _ => Except.ok.inj
  rw [parse, h, mapM_bind_eq_ok_iff]
  constructor
  · rintro ⟨entries, hentries, hxs⟩
    obtain ⟨front, rest, rfl, hfront, hrest⟩ := List.map_eq_append_iff.mp hentries.symm
    obtain rfl := (List.map_inj_right hinj).mp hfront
    obtain ⟨m, below, rfl, hm, hbelow⟩ := List.map_eq_cons_iff.mp hrest
    obtain rfl := Except.ok.inj hm
    obtain ⟨as, cs, rfl, has, hcs⟩ := exists_append_of_forall₂ hxs
    obtain ⟨p, bs, hp, hbs, rfl⟩ := List.forall₂_cons_left_iff.mp hcs
    exact ⟨as, p, bs, rfl, has, hp, mapM_bind_eq_ok_iff.mpr ⟨below, hbelow.symm, hbs⟩⟩
  · rintro ⟨as, p, bs, rfl, has, hp, hbs⟩
    obtain ⟨below, rfl, hbelow⟩ := mapM_bind_eq_ok_iff.mp hbs
    refine ⟨above ++ l :: below, ?_, List.rel_append has (.cons hp hbelow)⟩
    rw [List.map_append, List.map_cons]

/-- A document that can be read has no error among its logical lines. -/
theorem error_not_mem_of_parse {text : String} {xs : List Positioned} (h : parse text = .ok xs)
    (e : ParseError) : .error e ∉ logicalLines (physicalLines text) := by
  obtain ⟨entries, hentries, -⟩ := mapM_bind_eq_ok_iff.mp h
  rw [hentries]
  simp

/-- There is one entry at each line. -/
theorem eq_of_line_eq {text : String} {xs : List Positioned} (h : parse text = .ok xs)
    {p q : Positioned} (hp : p ∈ xs) (hq : q ∈ xs) (hline : p.line = q.line) : p = q := by
  have hnodup : (xs.map (·.line)).Nodup :=
    List.pairwise_map.mpr ((layout_of_parse h).increasing.imp fun hlt => Nat.ne_of_lt hlt)
  exact List.inj_on_of_nodup_map hnodup hp hq hline

/-- The logical lines of a document with a blank line where a header is open. -/
theorem logicalLines_blank {front : List (List Char)} {line : Nat}
    {physical parts : List (List Char)}
    (hwalk : (Assembly.idle.walk 1 front).1 = .joining line physical parts) {raw : List Char}
    (hraw : allBlank raw = true) (back : List (List Char)) :
    logicalLines (front ++ raw :: back) =
      (Assembly.idle.walk 1 front).2.map .ok ++
        Assembly.runFrom (Assembly.afterText line (joinParts parts.reverse) (raw :: physical)
          (markersOf (joinParts parts.reverse)) []) (1 + front.length + 1) back := by
  rw [logicalLines, Assembly.run_append, hwalk, Assembly.run_cons,
    Assembly.step_joining_blank hraw]

/-- A place in a text where a backslash has left a header open and a line follows: behind
the first `n` physical lines. -/
structure OpenHeader (text : String) (n : Nat) where
  /-- The line at which the header starts. -/
  line : Nat
  /-- The lines of the header so far, last first. -/
  physical : List (List Char)
  /-- The parts of the header so far, last first. -/
  parts : List (List Char)
  /-- The line that follows. -/
  next : List Char
  walk_eq : (Assembly.idle.walk 1 ((physicalLines text).take n)).1 = .joining line physical parts
  next_eq : (physicalLines text)[n]? = some next

/-- What the header says so far. -/
def OpenHeader.said {text : String} {n : Nat} (h : OpenHeader text n) : List Char :=
  joinParts h.parts.reverse

/-- The header ends at a blank line behind it: with the bodies that its heredocs take below it
is the entry `q`, and what follows them reads as `below` by itself. -/
def OpenHeader.CutsInto {text : String} {n : Nat} (h : OpenHeader text n) (blank : List Char)
    (q : Positioned) (below : List Positioned) : Prop :=
  ∃ tail bodies rest, (physicalLines text).drop n = tail ++ rest ∧
    TakeBodies (markersOf h.said) tail bodies ∧
    LogicalLine.positioned ⟨h.line, h.said, h.physical.reverse ++ blank :: tail, bodies⟩ = .ok q ∧
    entriesFrom (n + 2 + tail.length) rest = .ok below

/-- The entries are the same, but for the source of the one that starts at the line and for
the lines at which those below it start. -/
def SameApartFrom (line : Nat) (xs ys : List Positioned) : Prop :=
  List.Forall₂ (fun p q => q.instruction = p.instruction ∧ (p.line ≤ line → q.line = p.line) ∧
    (p.line ≠ line → q.source = p.source)) xs ys

/-- Entries that stay the same around one that keeps its instruction and its line. -/
theorem sameApartFrom_append {line : Nat} {p q : Positioned} (as : List Positioned)
    {bs : List Positioned} (hinstruction : q.instruction = p.instruction) (hp : p.line = line)
    (hq : q.line = line) (hbelow : ∀ b ∈ bs, line < b.line) :
    SameApartFrom line (as ++ p :: bs) (as ++ q :: bs.map (Positioned.shift 1)) := by
  refine List.rel_append (List.forall₂_same.mpr fun _ _ => ⟨rfl, fun _ => rfl, fun _ => rfl⟩)
    (.cons ⟨hinstruction, fun _ => hq.trans hp.symm, fun hne => absurd hp hne⟩ ?_)
  rw [List.forall₂_map_right_iff, List.forall₂_same]
  intro b hb
  have hlt := hbelow b hb
  exact ⟨rfl, fun hle => by omega, fun _ => rfl⟩

/-- Entries that are the same apart from a line have the same rows, if none starts there. -/
theorem SameApartFrom.flatMap_rows {line : Nat} {xs ys : List Positioned}
    (h : SameApartFrom line xs ys) (hline : ∀ p ∈ xs, p.line ≠ line) :
    ys.flatMap Positioned.rows = xs.flatMap Positioned.rows := by
  have hmap : xs.map Positioned.rows = ys.map Positioned.rows := by
    apply map_eq_map_of_forall₂
    refine ((List.forall₂_and_left _ _).mpr ⟨hline, h⟩).imp fun p q hpq => ?_
    rw [Positioned.rows, Positioned.rows, hpq.2.2.2 hpq.1]
  rw [List.flatMap_def, ← hmap, List.flatMap_def]

namespace OpenHeader

variable {text text' : String} {n : Nat} {blank : List Char}

/-- The lines of both texts. -/
theorem exists_lines (h : OpenHeader text n) (hinsert : InsertsLine (n + 1) blank text text') :
    ∃ front back, physicalLines text = front ++ h.next :: back ∧
      physicalLines text' = front ++ blank :: h.next :: back ∧ front.length = n ∧
      (Assembly.idle.walk 1 front).1 = .joining h.line h.physical h.parts := by
  cases n with
  | zero => exact absurd h.walk_eq (by simp [Assembly.walk])
  | succ n =>
    obtain ⟨front, back, htext, htext', hlength⟩ := hinsert.exists_physicalLines_below
    have htake : (physicalLines text).take (n + 1) = front := by
      rw [htext, List.take_left' hlength]
    have hget : (physicalLines text)[n + 1]? = back.head? := by
      rw [htext, ← hlength, List.getElem?_append_right (Nat.le_refl _), Nat.sub_self,
        List.head?_eq_getElem?]
    have hwalk := h.walk_eq
    rw [htake] at hwalk
    obtain ⟨rest, rfl⟩ := List.head?_eq_some_iff.mp (hget.symm.trans h.next_eq)
    exact ⟨front, rest, htext, htext', hlength, hwalk⟩

section Insertion

variable (h : OpenHeader text n) (hblank : allBlank blank = true)
  (hinsert : InsertsLine (n + 1) blank text text') {xs : List Positioned}
  (hparse : parse text = .ok xs)

include hblank hinsert hparse

/-- Where the header ends at the next line anyway, nothing changes. -/
theorem exists_same_of_blank (hnext : allBlank h.next = true) :
    ∃ ys, parse text' = .ok ys ∧ SameApartFrom h.line xs ys := by
  obtain ⟨front, back, htext, htext', -, hwalk⟩ := h.exists_lines hinsert
  have hfeed : '\n' ∉ h.next := (not_mem_of_mem_physicalLines (List.mem_of_getElem? h.next_eq)).1
  have hwords : ∀ m ∈ markersOf h.said, m.word ≠ [] := fun m hm => word_ne_nil_of_mem_markersOf hm
  -- either blank line ends the header, and the other one may then be the first of a body
  have hold := htext ▸ logicalLines_blank hwalk hnext back
  have hnew := htext' ▸ logicalLines_blank hwalk hblank (h.next :: back)
  rw [← said] at hold hnew
  rcases Assembly.runFrom_afterText_blank hnext hfeed h.said hwords back with
    ⟨bodies, bodies', tail, tail', rest, hrun, hinstruction⟩ | ⟨word, hrun⟩
  · rw [(hrun _ _ _).1] at hold
    rw [(hrun _ _ _).2] at hnew
    obtain ⟨as, p, bs, rfl, has, hp, hbs⟩ := (parse_eq_ok_iff_of_logicalLines hold).mp hparse
    have hi := (positioned_eq_ok_iff.mp hp).1
    have hline : h.line = p.line := (positioned_eq_ok_iff.mp hp).2.1
    have hbelow : ∀ b ∈ bs, p.line < b.line :=
      (List.pairwise_cons.mp (List.pairwise_append.mp (layout_of_parse hparse).increasing).2.1).1
    have hmoved := entriesFrom_shift 1 (1 + front.length + 1 + tail.length) rest
    rw [entriesFrom, entriesFrom, hbs] at hmoved
    obtain ⟨q, hq, hqi, hqline⟩ : ∃ q, LogicalLine.positioned
        ⟨h.line, h.said, (blank :: h.physical).reverse ++ tail', bodies'⟩ = .ok q ∧
          q.instruction = p.instruction ∧ q.line = h.line :=
      ⟨⟨p.instruction, h.line, _⟩,
        positioned_eq_ok_iff.mpr ⟨(hinstruction _ _ _ _).symm.trans hi, rfl, rfl⟩, rfl, rfl⟩
    exact ⟨as ++ q :: bs.map (Positioned.shift 1),
      (parse_eq_ok_iff_of_logicalLines hnew).mpr ⟨as, q, _, rfl, has, hq, hmoved⟩,
      sameApartFrom_append as hqi hline.symm hqline (hline ▸ hbelow)⟩
  · -- a heredoc without its end would be an error, and the text has none
    rw [hrun] at hold
    exact absurd (hold ▸ List.mem_append_right _ (List.mem_singleton_self _))
      (error_not_mem_of_parse hparse _)

omit hblank hinsert in
/-- Without the new line, the logical line of the header has the next line among its own. -/
theorem exists_logicalLines_eq {front back : List (List Char)}
    (htext : physicalLines text = front ++ h.next :: back)
    (hwalk : (Assembly.idle.walk 1 front).1 = .joining h.line h.physical h.parts) :
    ∃ l more rest, logicalLines (physicalLines text) =
        (Assembly.idle.walk 1 front).2.map .ok ++ .ok l ::
          Assembly.idle.run (1 + front.length + (more.length + 1)) rest ∧
      l.line = h.line ∧ l.physical = h.physical.reverse ++ h.next :: more ∧
      back = more ++ rest := by
  obtain ⟨entries, hrun, -⟩ := mapM_bind_eq_ok_iff.mp hparse
  have hold := hrun
  rw [htext, logicalLines, Assembly.run_append, hwalk] at hold
  obtain ⟨above, entries, rfl, habove, hentries⟩ := List.map_eq_append_iff.mp hold.symm
  obtain ⟨l, rest, tail, below, rfl, hline, hphysical, hhead, hlines, hbelow⟩ :=
    Assembly.exists_of_run_open (by simp) hentries.symm
  obtain ⟨more, rfl⟩ := List.head?_eq_some_iff.mp hhead
  refine ⟨l, more, below, ?_, hline, hphysical, (List.cons.inj hlines).2⟩
  rw [hrun, List.map_append, habove, List.map_cons, ← List.length_cons, hbelow]

omit hblank hinsert in
/-- The entry of the header without the new line, and the entries around it. -/
theorem exists_entry {front back : List (List Char)}
    (htext : physicalLines text = front ++ h.next :: back)
    (hwalk : (Assembly.idle.walk 1 front).1 = .joining h.line h.physical h.parts) :
    ∃ p below more rest, xs = xs.filter (·.line < h.line) ++ p :: below ∧
      List.Forall₂ (fun l p => LogicalLine.positioned l = .ok p) (Assembly.idle.walk 1 front).2
        (xs.filter (·.line < h.line)) ∧
      p.line = h.line ∧ (∀ b ∈ below, h.line < b.line) ∧
      p.rows = h.physical.reverse ++ h.next :: more ∧ back = more ++ rest ∧
      entriesFrom (1 + front.length + (more.length + 1)) rest = .ok below := by
  obtain ⟨l, more, rest, hold, hline, hphysical, hback⟩ :=
    h.exists_logicalLines_eq hparse htext hwalk
  obtain ⟨as, p, bs, rfl, has, hp, hbs⟩ := (parse_eq_ok_iff_of_logicalLines hold).mp hparse
  have hpline : p.line = h.line := (positioned_eq_ok_iff.mp hp).2.1.symm.trans hline
  have hrows := rows_eq_of_mem hparse
    (by rw [hold]; exact List.mem_append_right _ List.mem_cons_self) hp
  -- entries stand in the order of their lines, so those above are the ones in front
  obtain ⟨-, hbelow, habove⟩ := List.pairwise_append.mp (layout_of_parse hparse).increasing
  have hfront : ∀ a ∈ as, decide (a.line < h.line) = true := fun a ha =>
    decide_eq_true (hpline ▸ habove a ha p List.mem_cons_self)
  have hafter : ∀ b ∈ p :: bs, ¬decide (b.line < h.line) = true := by
    intro b hb hlt
    have hlt := of_decide_eq_true hlt
    rcases List.mem_cons.mp hb with rfl | hb
    · omega
    · have := (List.pairwise_cons.mp hbelow).1 b hb
      omega
  have hfilter : (as ++ p :: bs).filter (·.line < h.line) = as := by
    rw [List.filter_append, List.filter_eq_self.mpr hfront, List.filter_eq_nil_iff.mpr hafter,
      List.append_nil]
  rw [hfilter]
  exact ⟨p, bs, more, rest, rfl, has, hpline,
    fun b hb => hpline ▸ (List.pairwise_cons.mp hbelow).1 b hb, hrows.trans hphysical, hback, hbs⟩

omit hinsert hparse in
/-- With the new line, the logical line of the header ends with the bodies that it takes. -/
theorem logicalLines_of_takeBodies {front tail bodies rest : List (List Char)}
    (htext' : physicalLines text' = front ++ blank :: (tail ++ rest))
    (hwalk : (Assembly.idle.walk 1 front).1 = .joining h.line h.physical h.parts)
    (hbodies : TakeBodies (markersOf h.said) tail bodies) :
    logicalLines (physicalLines text') = (Assembly.idle.walk 1 front).2.map .ok ++
      .ok ⟨h.line, h.said, h.physical.reverse ++ blank :: tail, bodies⟩ ::
        Assembly.idle.run (1 + front.length + 1 + tail.length) rest := by
  rw [htext', logicalLines_blank hwalk hblank, ← said, Assembly.runFrom_of_takeBodies hbodies,
    List.reverse_cons, List.append_assoc, List.singleton_append]
  rfl

/-- **The blank line ends the header.** Its heredocs take the lines below, as far as they go,
and what follows is read from scratch. -/
theorem parse_eq_ok_iff {ys : List Positioned} : parse text' = .ok ys ↔
    ∃ q below, ys = xs.filter (·.line < h.line) ++ q :: below ∧ h.CutsInto blank q below := by
  obtain ⟨front, back, htext, htext', hlength, hwalk⟩ := h.exists_lines hinsert
  obtain ⟨p, below, more, rest, -, habove, -⟩ := h.exists_entry hparse htext hwalk
  have hdrop : (physicalLines text).drop n = h.next :: back := by
    rw [htext, List.drop_left' hlength]
  have hnumber : ∀ k, 1 + front.length + 1 + k = n + 2 + k := by omega
  constructor
  · intro hparse'
    rcases Assembly.exists_takeBodies_or_error (markersOf h.said) (h.next :: back) with
      ⟨tail, rest, bodies, htail, hbodies⟩ | ⟨word, herror⟩
    · have hnew := h.logicalLines_of_takeBodies hblank (htail ▸ htext') hwalk hbodies
      rw [hnumber] at hnew
      obtain ⟨as, q, bs, rfl, has, hq, hbs⟩ := (parse_eq_ok_iff_of_logicalLines hnew).mp hparse'
      obtain rfl : as = xs.filter (·.line < h.line) :=
        Except.ok.inj ((mapM_eq_ok_iff.mpr has).symm.trans (mapM_eq_ok_iff.mpr habove))
      exact ⟨q, bs, rfl, tail, bodies, rest, hdrop.trans htail, hbodies, hq, hbs⟩
    · -- bodies without an end would be an error, and the text has none
      have hlines := htext' ▸ logicalLines_blank hwalk hblank (h.next :: back)
      rw [← said, herror] at hlines
      exact absurd (hlines ▸ List.mem_append_right _ (List.mem_singleton_self _))
        (error_not_mem_of_parse hparse' _)
  · rintro ⟨q, bs, rfl, tail, bodies, rest, htail, hbodies, hq, hbs⟩
    have hnew := h.logicalLines_of_takeBodies hblank (hdrop.symm.trans htail ▸ htext') hwalk hbodies
    rw [hnumber] at hnew
    exact (parse_eq_ok_iff_of_logicalLines hnew).mpr ⟨_, q, bs, rfl, habove, hq, hbs⟩

omit hparse in
/-- The entry of the header with the new line has the lines that its heredocs take. -/
theorem rows_of_positioned {ys : List Positioned} (hparse' : parse text' = .ok ys)
    {tail bodies rest : List (List Char)} {q : Positioned}
    (htail : (physicalLines text).drop n = tail ++ rest)
    (hbodies : TakeBodies (markersOf h.said) tail bodies)
    (hq : LogicalLine.positioned
      ⟨h.line, h.said, h.physical.reverse ++ blank :: tail, bodies⟩ = .ok q) :
    q.rows = h.physical.reverse ++ blank :: tail := by
  obtain ⟨front, back, htext, htext', hlength, hwalk⟩ := h.exists_lines hinsert
  rw [htext, List.drop_left' hlength] at htail
  have hnew := h.logicalLines_of_takeBodies hblank (htail ▸ htext') hwalk hbodies
  exact rows_eq_of_mem hparse' (hnew ▸ List.mem_append_right _ List.mem_cons_self) hq

/-- **Nothing changes exactly if the entry of the header keeps its instruction and its lines**,
blank ones aside. -/
theorem same_iff {ys : List Positioned} (hparse' : parse text' = .ok ys) :
    SameApartFrom h.line xs ys ↔ ∃ p ∈ xs, ∃ q ∈ ys, p.line = h.line ∧ q.line = h.line ∧
      q.instruction = p.instruction ∧ inkedLines q.rows = inkedLines p.rows := by
  obtain ⟨front, back, htext, htext', hlength, hwalk⟩ := h.exists_lines hinsert
  obtain ⟨p, bs, more, rest, hxs, -, hpline, hbelow, hprows, hback, hbs⟩ :=
    h.exists_entry hparse htext hwalk
  obtain ⟨q, cs, hys, tail, bodies, rest', htail, hbodies, hq, hcs⟩ :=
    (h.parse_eq_ok_iff hblank hinsert hparse).mp hparse'
  have hqline : q.line = h.line := (positioned_eq_ok_iff.mp hq).2.1.symm
  have hqrows := h.rows_of_positioned hblank hinsert hparse' htail hbodies hq
  generalize xs.filter (·.line < h.line) = as at hxs hys
  subst hxs hys
  constructor
  · intro hsame
    -- the entries below the header have the lines that they had, so the header has its own
    have hdrop := List.forall₂_drop as.length hsame
    rw [List.drop_left, List.drop_left, List.forall₂_cons] at hdrop
    have hrows : cs.flatMap Positioned.rows = bs.flatMap Positioned.rows :=
      SameApartFrom.flatMap_rows hdrop.2 fun b hb => (hbelow b hb).ne'
    have hall := inkedLines_of_parse hparse
    have hall' := inkedLines_of_parse hparse'
    have hlines : inkedLines (physicalLines text') = inkedLines (physicalLines text) := by
      rw [htext, htext', inkedLines_append, inkedLines_append, inkedLines_cons_blank hblank]
    simp only [List.flatMap_append, List.flatMap_cons, inkedLines_append, hrows] at hall hall'
    exact ⟨p, by simp, q, by simp, hpline, hqline, hdrop.1.1, by omega⟩
  · rintro ⟨p', hp', q', hq', hpline', hqline', hinstruction, hink⟩
    obtain rfl := eq_of_line_eq hparse hp' (by simp) (hpline'.trans hpline.symm)
    obtain rfl := eq_of_line_eq hparse' hq' (by simp) (hqline'.trans hqline.symm)
    rw [hprows, hqrows, inkedLines_append, inkedLines_append, inkedLines_cons_blank hblank] at hink
    -- both entries end at the same line, blank ones aside, so the same entries follow
    have hcut : tail ++ rest' = h.next :: more ++ rest := by
      rw [← htail, htext, List.drop_left' hlength, hback, List.cons_append]
    have hmoved := entriesFrom_shift 1 (1 + front.length + (more.length + 1)) rest
    rw [hbs] at hmoved
    have hnumber : n + 2 + (h.next :: more).length = 1 + front.length + (more.length + 1) + 1 := by
      rw [List.length_cons]
      omega
    rw [entriesFrom_of_inkedLines_eq hcut (by omega) (n + 2), hnumber, hmoved] at hcs
    obtain rfl : bs.map (Positioned.shift 1) = cs := Except.ok.inj hcs
    exact sameApartFrom_append as hinstruction hpline hqline hbelow

/-- Where the next line is not blank, the entry of a header without heredocs loses it. -/
theorem blank_of_same (hmarkers : markersOf h.said = []) {ys : List Positioned}
    (hparse' : parse text' = .ok ys) (hsame : SameApartFrom h.line xs ys) :
    allBlank h.next = true := by
  obtain ⟨front, back, htext, -, -, hwalk⟩ := h.exists_lines hinsert
  obtain ⟨p, bs, more, rest, hxs, -, hpline, -, hprows, -⟩ := h.exists_entry hparse htext hwalk
  obtain ⟨q, cs, hys, tail, bodies, rest', htail, hbodies, hq, -⟩ :=
    (h.parse_eq_ok_iff hblank hinsert hparse).mp hparse'
  have hqline : q.line = h.line := (positioned_eq_ok_iff.mp hq).2.1.symm
  have hqrows := h.rows_of_positioned hblank hinsert hparse' htail hbodies hq
  obtain ⟨p', hp', q', hq', hpline', hqline', -, hink⟩ :=
    (h.same_iff hblank hinsert hparse hparse').mp hsame
  obtain rfl := eq_of_line_eq hparse hp' (hxs ▸ by simp) (hpline'.trans hpline.symm)
  obtain rfl := eq_of_line_eq hparse' hq' (hys ▸ by simp) (hqline'.trans hqline.symm)
  rw [hmarkers] at hbodies
  obtain ⟨rfl, -⟩ := hbodies.eq_nil
  rw [hprows, hqrows, inkedLines_append, inkedLines_append, inkedLines_cons_blank hblank] at hink
  -- which leaves no line that is not blank for the next one
  have hempty : inkedLines [] = 0 := rfl
  have hzero : inkedLines (h.next :: more) = 0 := by omega
  simpa using List.countP_eq_zero.mp hzero h.next List.mem_cons_self

end Insertion

/-- A header without heredocs is cut at the new line, and all lines below are left. -/
theorem cutsInto_iff_of_markersOf (h : OpenHeader text n) (hmarkers : markersOf h.said = [])
    {q : Positioned} {below : List Positioned} : h.CutsInto blank q below ↔
      LogicalLine.positioned ⟨h.line, h.said, h.physical.reverse ++ [blank], []⟩ = .ok q ∧
      entriesFrom (n + 2) ((physicalLines text).drop n) = .ok below := by
  constructor
  · rintro ⟨tail, bodies, rest, htail, hbodies, hq, hbelow⟩
    rw [hmarkers] at hbodies
    obtain ⟨rfl, rfl⟩ := hbodies.eq_nil
    exact ⟨hq, htail ▸ hbelow⟩
  · rintro ⟨hq, hbelow⟩
    exact ⟨[], [], _, rfl, hmarkers ▸ .none, hq, hbelow⟩

end OpenHeader

/-- **An empty line ends a header.** Let a backslash leave a header open in a document that
can be read, and let a blank line be put behind it. If the next line is blank already, the
entries stay the same. Otherwise, if the header calls for no heredocs so far, they do not:
those above the header are followed by one that says what the header has said so far, and
then by those that the lines below the new one read as by themselves. If it calls for
heredocs, these take the lines below first, and the entries stay the same exactly if that
leaves the header its instruction and its lines, blank ones aside. -/
theorem parse_blankLine_in_header {text text' : String} {n : Nat} (h : OpenHeader text n)
    {xs : List Positioned} (hparse : parse text = .ok xs) {blank : List Char}
    (hblank : allBlank blank = true) (hinsert : InsertsLine (n + 1) blank text text') :
    (allBlank h.next = true → ∃ ys, parse text' = .ok ys ∧ SameApartFrom h.line xs ys) ∧
    (markersOf h.said = [] →
      ((∃ ys, parse text' = .ok ys ∧ SameApartFrom h.line xs ys) → allBlank h.next = true) ∧
      ∀ ys, parse text' = .ok ys ↔ ∃ q below, ys = xs.filter (·.line < h.line) ++ q :: below ∧
        LogicalLine.positioned ⟨h.line, h.said, h.physical.reverse ++ [blank], []⟩ = .ok q ∧
        entriesFrom (n + 2) ((physicalLines text).drop n) = .ok below) ∧
    (∀ ys, parse text' = .ok ys ↔ ∃ q below, ys = xs.filter (·.line < h.line) ++ q :: below ∧
      h.CutsInto blank q below) ∧
    ∀ ys, parse text' = .ok ys → (SameApartFrom h.line xs ys ↔
      ∃ p ∈ xs, ∃ q ∈ ys, p.line = h.line ∧ q.line = h.line ∧
        q.instruction = p.instruction ∧ inkedLines q.rows = inkedLines p.rows) := by
  refine ⟨h.exists_same_of_blank hblank hinsert hparse, fun hmarkers => ⟨?_, fun ys => ?_⟩,
    fun ys => h.parse_eq_ok_iff hblank hinsert hparse,
    fun ys => h.same_iff hblank hinsert hparse⟩
  · rintro ⟨ys, hparse', hsame⟩
    exact h.blank_of_same hblank hinsert hparse hmarkers hparse' hsame
  · rw [h.parse_eq_ok_iff hblank hinsert hparse]
    simp only [h.cutsInto_iff_of_markersOf hmarkers]

/-- A byte order mark stands in front, and the line that the header loses is an instruction
of its own. -/
theorem parse_blankLine_in_header_of_user :
    InsertsLine 3 ['\t'] "\uFEFFUSER a\nRUN b \\\nUSER c" "\uFEFFUSER a\nRUN b \\\n\t\nUSER c" ∧
    parse "\uFEFFUSER a\nRUN b \\\nUSER c" =
      .ok [⟨.user "a", 1, "USER a"⟩, ⟨.run (.shell "b USER c") {}, 2, "RUN b \\\nUSER c"⟩] ∧
    parse "\uFEFFUSER a\nRUN b \\\n\t\nUSER c" =
      .ok [⟨.user "a", 1, "USER a"⟩, ⟨.run (.shell "b") {}, 2, "RUN b \\\n\t"⟩,
        ⟨.user "c", 4, "USER c"⟩] := by
  have hinsert : InsertsLine 3 ['\t'] "\uFEFFUSER a\nRUN b \\\nUSER c"
      "\uFEFFUSER a\nRUN b \\\n\t\nUSER c" :=
    ⟨"\uFEFFUSER a\nRUN b \\\n".toList, "USER c".toList, ['\n'], by decide, by decide,
      .inr ⟨"\uFEFFUSER a\nRUN b \\".toList, ['\n'], by decide, .inl rfl⟩,
      .inr ⟨"\uFEFFUSER a\nRUN b \\".toList, ['\n'], by decide, .inl rfl⟩,
      .inl rfl, by decide, by decide, by decide⟩
  have hparse : parse "\uFEFFUSER a\nRUN b \\\nUSER c" =
      .ok [⟨.user "a", 1, "USER a"⟩, ⟨.run (.shell "b USER c") {}, 2, "RUN b \\\nUSER c"⟩] := by
    decide +kernel
  let h : OpenHeader "\uFEFFUSER a\nRUN b \\\nUSER c" 2 :=
    ⟨2, ["RUN b \\".toList], ["RUN b ".toList], "USER c".toList, by decide +kernel,
      by decide +kernel⟩
  have hcut :=
    ((parse_blankLine_in_header h hparse (by decide) hinsert).2.1 (by decide +kernel)).2
  refine ⟨hinsert, hparse, (hcut _).mpr ?_⟩
  exact ⟨⟨.run (.shell "b") {}, 2, "RUN b \\\n\t"⟩, [⟨.user "c", 4, "USER c"⟩], by decide +kernel,
    by decide +kernel, by decide +kernel⟩

-- A comment below a header that calls for a heredoc may be part of either: a script has no
-- comments, so the instruction is the same with the empty line and without it.
example : (parse "RUN <<A \\\n\n# b\n\nc\nA").map (·.map (·.instruction)) =
    (parse "RUN <<A \\\n# b\n\nc\nA").map (·.map (·.instruction)) := by
  decide +kernel

/-- Not every empty line may be put inside a header: what follows it may be no instruction. -/
theorem parse_blankLine_before_operator :
    InsertsLine 2 [] "RUN echo a \\\n  && echo b\n" "RUN echo a \\\n\n  && echo b\n" ∧
    parse "RUN echo a \\\n  && echo b\n" =
      .ok [⟨.run (.shell "echo a && echo b") {}, 1, "RUN echo a \\\n  && echo b"⟩] ∧
    parse "RUN echo a \\\n\n  && echo b\n" =
      .error (.malformed (.unknownInstruction "&&") 3 (some 1)) := by
  refine ⟨⟨"RUN echo a \\\n".toList, "  && echo b\n".toList, ['\n'], by decide, by decide,
    .inr ⟨"RUN echo a \\".toList, ['\n'], by decide, .inl rfl⟩,
    .inr ⟨"RUN echo a \\".toList, ['\n'], by decide, .inl rfl⟩,
    .inl rfl, by decide, by decide, by decide⟩, ?_, ?_⟩
  · decide +kernel
  · decide +kernel

end ContainerLint.Dockerfile
