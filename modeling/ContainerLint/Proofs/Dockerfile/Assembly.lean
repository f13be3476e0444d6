/-
The assembly of logical lines as a walk over physical lines.

`Assembly.run` answers with the logical lines of a whole document. What laws of
documents need is the state in the middle as well, so `Assembly.walk` keeps it: a
run is a walk and then what the last state leaves (`run_eq_walk`), and a walk over
two documents, one after the other, is two walks (`walk_append`).

Three facts say all that is used of a single step. It does not depend on the
numbers of the lines, except that they are where logical lines start
(`step_shift`). It does one of three things with a physical line: skip a blank one,
keep it for the logical line that is open, or complete that logical line with it
(`step_fate`). And what stands first in a logical line stands first in its text
(`step_opensWith`). What a run does follows from these by induction on the lines.
-/
import ContainerLint.Dockerfile.LogicalLine
import ContainerLint.Proofs.Text.Lines

namespace ContainerLint.Dockerfile

open ContainerLint.Text

/-! ## Walks -/

namespace Assembly

/-- The state after some physical lines, and the logical lines completed by them. -/
def walk (state : Assembly) (number : Nat) : List (List Char) → Assembly × List LogicalLine
  | [] => (state, [])
  | raw :: lines =>
    let last := (state.step number raw).1.walk (number + 1) lines
    (last.1, (state.step number raw).2.toList ++ last.2)

/-- A run is a walk, and then what its last state leaves. -/
theorem run_eq_walk (state : Assembly) (number : Nat) (lines : List (List Char)) :
    state.run number lines =
      (state.walk number lines).2.map .ok ++ (state.walk number lines).1.finish := by
  induction lines generalizing state number with
  | nil => rfl
  | cons raw lines ih =>
    rw [run, walk]
    rcases hstep : state.step number raw with ⟨next, _ | line⟩
    · simp only [Option.toList_none, List.nil_append, ih]
    · simp only [Option.toList_some, List.map_cons, List.cons_append, List.nil_append, ih]

/-- A walk over two pieces of a document is two walks. -/
theorem walk_append (state : Assembly) (number : Nat) (front back : List (List Char)) :
    state.walk number (front ++ back) =
      let first := state.walk number front
      let second := first.1.walk (number + front.length) back
      (second.1, first.2 ++ second.2) := by
  induction front generalizing state number with
  | nil => rfl
  | cons raw front ih =>
    rw [List.cons_append, walk, ih, walk]
    simp only [List.length_cons, List.append_assoc]
    rw [show number + 1 + front.length = number + (front.length + 1) by omega]

/-- A run over two pieces of a document is a walk and a run. -/
theorem run_append (state : Assembly) (number : Nat) (front back : List (List Char)) :
    state.run number (front ++ back) =
      (state.walk number front).2.map .ok ++
        (state.walk number front).1.run (number + front.length) back := by
  rw [run_eq_walk, walk_append, run_eq_walk]
  simp only [List.map_append, List.append_assoc]

end Assembly

/-! ## Moving a document down

Nothing but the reported numbers depends on where a document starts, so a run that
starts `k` lines further down gives the same answers, `k` lines further down. -/

/-- The logical line, `k` lines further down. -/
def LogicalLine.shift (k : Nat) (l : LogicalLine) : LogicalLine :=
  { l with line := l.line + k }

/-- The error, `k` lines further down, if it carries a line. -/
def ParseError.shift (k : Nat) : ParseError → ParseError
  | .malformed fault line column => .malformed fault (line + k) column
  | .numeral error => .numeral error

/-- A result with what it says of lines moved down by `k`. -/
def shiftResult {α : Type} (move : Nat → α → α) (k : Nat) :
    Except ParseError α → Except ParseError α
  | .ok a => .ok (move k a)
  | .error e => .error (e.shift k)

namespace Assembly

/-- The state, with its logical line `k` lines further down. -/
def shift (k : Nat) : Assembly → Assembly
  | .idle => .idle
  | .joining line physical parts => .joining (line + k) physical parts
  | .heredoc line text physical marker waiting body bodies =>
    .heredoc (line + k) text physical marker waiting body bodies

/-- What a step gives, `k` lines further down. -/
def shiftStep (k : Nat) (r : Assembly × Option LogicalLine) : Assembly × Option LogicalLine :=
  (r.1.shift k, r.2.map (LogicalLine.shift k))

theorem afterText_shift (k line : Nat) (text : List Char) (physical : List (List Char))
    (waiting : List Marker) (bodies : List (List Char)) :
    afterText (line + k) text physical waiting bodies =
      shiftStep k (afterText line text physical waiting bodies) := by
  cases waiting <;> rfl

theorem addPart_shift (k line : Nat) (physical parts : List (List Char)) (raw : List Char) :
    addPart (line + k) physical parts raw = shiftStep k (addPart line physical parts raw) := by
  unfold addPart
  cases continued? raw with
  | some front => rfl
  | none => exact afterText_shift k line _ _ _ _

/-- A step further down does the same, further down. -/
theorem step_shift (k : Nat) (state : Assembly) (number : Nat) (raw : List Char) :
    (state.shift k).step (number + k) raw = shiftStep k (state.step number raw) := by
  cases state with
  | idle =>
    simp only [shift, step]
    split
    · rfl
    · split
      · rfl
      · exact addPart_shift k number [] [] raw
  | joining line physical parts =>
    simp only [shift, step]
    split
    · rfl
    · exact addPart_shift k line physical parts raw
  | heredoc line text physical marker waiting body bodies =>
    simp only [shift, step]
    split
    · exact afterText_shift k line text _ _ _
    · rfl

/-- The end of the file does the same, further down. -/
theorem finish_shift (k : Nat) (state : Assembly) :
    (state.shift k).finish = state.finish.map (shiftResult LogicalLine.shift k) := by
  cases state with
  | idle => rfl
  | joining line physical parts =>
    simp only [shift, finish]
    cases markersOf (joinParts parts.reverse) <;> rfl
  | heredoc line text physical marker waiting body bodies => rfl

/-- A walk over many lines does the same, further down. -/
theorem walk_shift (k : Nat) (state : Assembly) (number : Nat) (lines : List (List Char)) :
    (state.shift k).walk (number + k) lines =
      ((state.walk number lines).1.shift k,
        (state.walk number lines).2.map (LogicalLine.shift k)) := by
  induction lines generalizing state number with
  | nil => rfl
  | cons raw lines ih =>
    rw [walk, walk, step_shift]
    simp only [shiftStep]
    rw [show number + k + 1 = number + 1 + k by omega, ih]
    cases (state.step number raw).2 <;> rfl

/-- **A run does not depend on where the document starts**, but for the lines that it
reports. -/
theorem run_shift (k : Nat) (state : Assembly) (number : Nat) (lines : List (List Char)) :
    (state.shift k).run (number + k) lines =
      (state.run number lines).map (shiftResult LogicalLine.shift k) := by
  rw [run_eq_walk, run_eq_walk, walk_shift, finish_shift]
  simp only [List.map_append, List.map_map]
  rfl

/-! ## What a step does with a physical line

The state keeps the physical lines of the logical line that is open. A step that
keeps the logical line open adds its own line to them, and one that completes it
hands over all of them, so no line is lost between the two. -/

/-- The physical lines of the logical line that is open. -/
def pending : Assembly → List (List Char)
  | .idle => []
  | .joining _ physical _ => physical.reverse
  | .heredoc _ _ physical .. => physical.reverse

/-- Where the logical line that is open starts, `number` being the next line: there, if
none is open. -/
def start (number : Nat) : Assembly → Nat
  | .idle => number
  | .joining line .. => line
  | .heredoc line .. => line

/-- What became of a physical line: it was skipped, kept, or made the last one of a
logical line. -/
inductive Fate (state : Assembly) (number : Nat) (raw : List Char) :
    Assembly × Option LogicalLine → Prop
  | skipped : state = .idle → allBlank raw = true → Fate state number raw (.idle, none)
  | kept (next : Assembly) : next ≠ .idle → next.pending = state.pending ++ [raw] →
      (∀ m, next.start m = state.start number) → Fate state number raw (next, none)
  | completed (l : LogicalLine) : l.physical = state.pending ++ [raw] →
      l.line = state.start number → Fate state number raw (.idle, some l)

/-- A completed text is a logical line, or waits for the body of a heredoc. -/
theorem afterText_fate {state : Assembly} {number : Nat} {raw : List Char} {line : Nat}
    {physical : List (List Char)} (hline : line = state.start number)
    (hphysical : physical.reverse = state.pending ++ [raw])
    (text : List Char) (waiting : List Marker) (bodies : List (List Char)) :
    Fate state number raw (afterText line text physical waiting bodies) := by
  cases waiting with
  | nil => exact .completed _ hphysical hline
  | cons marker waiting => exact .kept _ (by simp) hphysical fun _ => hline

/-- A part is kept, or completes the text. -/
theorem addPart_fate {state : Assembly} {number : Nat} {raw : List Char} {line : Nat}
    {physical : List (List Char)} (hline : line = state.start number)
    (hphysical : (raw :: physical).reverse = state.pending ++ [raw])
    (parts : List (List Char)) :
    Fate state number raw (addPart line physical parts raw) := by
  unfold addPart
  cases continued? raw with
  | some front => exact .kept _ (by simp) hphysical fun _ => hline
  | none => exact afterText_fate hline hphysical _ _ _

/-- **The three things that can become of a physical line.** -/
theorem step_fate (state : Assembly) (number : Nat) (raw : List Char) :
    Fate state number raw (state.step number raw) := by
  cases state with
  | idle =>
    simp only [step]
    by_cases hblank : allBlank raw = true
    · rw [if_pos hblank]
      exact .skipped rfl hblank
    · rw [if_neg hblank]
      by_cases hcomment : isCommentLine raw = true
      · rw [if_pos hcomment]
        exact .completed _ rfl rfl
      · rw [if_neg hcomment]
        exact addPart_fate rfl rfl []
  | joining line physical parts =>
    simp only [step]
    by_cases hcomment : isCommentLine raw = true
    · rw [if_pos hcomment]
      exact .kept _ (by simp) (by simp [pending]) fun _ => rfl
    · rw [if_neg hcomment]
      exact addPart_fate rfl (by simp [pending]) parts
  | heredoc line text physical marker waiting body bodies =>
    simp only [step]
    by_cases hcloses : marker.closes raw = true
    · rw [if_pos hcloses]
      exact afterText_fate rfl (by simp [pending]) _ _ _
    · rw [if_neg hcloses]
      exact .kept _ (by simp) (by simp [pending]) fun _ => rfl

/-- What the end of a document makes of a state: nothing is open, the logical line that
is open is complete with the lines it has, or a heredoc is left without its end. -/
theorem finish_cases (state : Assembly) :
    (state = .idle ∧ state.finish = []) ∨
    (∃ l, state.finish = [.ok l] ∧ l.physical = state.pending ∧ ∀ m, l.line = state.start m) ∨
    (∃ e, state.finish = [.error e]) := by
  cases state with
  | idle => exact Or.inl ⟨rfl, rfl⟩
  | joining line physical parts =>
    simp only [finish]
    cases markersOf (joinParts parts.reverse) with
    | nil => exact Or.inr (Or.inl ⟨_, rfl, rfl, fun _ => rfl⟩)
    | cons marker waiting => exact Or.inr (Or.inr ⟨_, rfl⟩)
  | heredoc line text physical marker waiting body bodies => exact Or.inr (Or.inr ⟨_, rfl⟩)

/-- An empty line ends a logical line that a backslash has left open. -/
theorem step_empty_ne_joining (state : Assembly) (number line : Nat)
    (physical parts : List (List Char)) :
    (state.step number []).1 ≠ .joining line physical parts := by
  have hafter : ∀ first text kept waiting bodies,
      (afterText first text kept waiting bodies).1 ≠ .joining line physical parts := by
    intro first text kept waiting bodies
    cases waiting <;> simp [afterText]
  cases state with
  | idle => simp [step, allBlank]
  | joining first kept sofar => exact hafter _ _ _ _ _
  | heredoc first text kept marker waiting body bodies =>
    simp only [step]
    split
    · exact hafter _ _ _ _ _
    · simp

/-- **A document that can be read and ends in an empty line leaves nothing open.** -/
theorem walk_concat_empty {number : Nat} {front : List (List Char)} {entries : List LogicalLine}
    (hrun : idle.run number (front ++ [[]]) = entries.map .ok) :
    idle.walk number (front ++ [[]]) = (.idle, entries) := by
  have hlast : (idle.walk number (front ++ [[]])).1 =
      ((idle.walk number front).1.step (number + front.length) []).1 := by
    rw [walk_append]
    rfl
  rw [run_eq_walk] at hrun
  cases hstate : (idle.walk number (front ++ [[]])).1 with
  | idle =>
    rw [hstate, finish, List.append_nil] at hrun
    exact Prod.ext hstate ((List.map_inj_right fun _ _ => Except.ok.inj).mp hrun)
  | joining line physical parts =>
    exact absurd (hlast.symm.trans hstate) (step_empty_ne_joining _ _ _ _ _)
  | heredoc line text physical marker waiting body bodies =>
    -- a heredoc without its end would be an error, and the run has none
    rw [hstate, finish] at hrun
    have herror : Except.error _ ∈ entries.map Except.ok :=
      hrun ▸ List.mem_append_right _ (List.mem_singleton_self _)
    simp at herror

/-! ## What stands first in a logical line

A character that is neither a blank nor a sign of the assembly itself, a backslash or
a number sign, goes into the text of the logical line that it opens, and nothing comes
before it. -/

/-- More parts do not change what stands in front. -/
theorem head?_joinParts_append {front : List (List Char)} {c : Char}
    (hfront : (joinParts front).head? = some c) (back : List (List Char)) :
    (joinParts (front ++ back)).head? = some c := by
  simp only [joinParts, List.map_append, List.filter_append] at hfront ⊢
  cases hkept : (front.map trim).filter (!·.isEmpty) with
  | nil => simp [hkept, join] at hfront
  | cons piece pieces =>
    rw [hkept] at hfront
    have hpiece : piece ≠ [] := by
      have hmem : piece ∈ (front.map trim).filter (!·.isEmpty) := by simp [hkept]
      simpa using (List.mem_filter.mp hmem).2
    obtain ⟨d, cs, rfl⟩ := List.exists_cons_of_ne_nil hpiece
    rw [head?_join_cons rfl] at hfront
    rw [List.cons_append, head?_join_cons rfl, ← hfront]

/-- The text of the logical line that is open has `c` in front. -/
def OpensWith (c : Char) : Assembly → Prop
  | .idle => False
  | .joining _ _ parts => (joinParts parts.reverse).head? = some c
  | .heredoc _ text .. => text.head? = some c

/-- The text that a step goes on with or completes has `c` in front. -/
def StepOpensWith (c : Char) : Assembly × Option LogicalLine → Prop
  | (next, none) => next.OpensWith c
  | (_, some l) => l.text.head? = some c

theorem afterText_opensWith {c : Char} {text : List Char} (htext : text.head? = some c)
    (line : Nat) (physical : List (List Char)) (waiting : List Marker)
    (bodies : List (List Char)) :
    StepOpensWith c (afterText line text physical waiting bodies) := by
  cases waiting <;> exact htext

theorem addPart_opensWith {c : Char} {parts : List (List Char)} {raw : List Char}
    (hopen : ∀ front, continued? raw = some front →
      (joinParts (front :: parts).reverse).head? = some c)
    (hlast : (joinParts (trimRight raw :: parts).reverse).head? = some c)
    (line : Nat) (physical : List (List Char)) :
    StepOpensWith c (addPart line physical parts raw) := by
  unfold addPart
  cases hcontinued : continued? raw with
  | some front => exact hopen front hcontinued
  | none => exact afterText_opensWith hlast line _ _ _

/-- A text that begins with a character goes on to begin with it. -/
theorem step_opensWith {c : Char} {state : Assembly} (hstate : state.OpensWith c)
    (number : Nat) (raw : List Char) : StepOpensWith c (state.step number raw) := by
  cases state with
  | idle => exact hstate.elim
  | joining line physical parts =>
    simp only [step]
    split
    · exact hstate
    · refine addPart_opensWith (fun front _ => ?_) ?_ line physical
      · rw [List.reverse_cons]
        exact head?_joinParts_append hstate [front]
      · rw [List.reverse_cons]
        exact head?_joinParts_append hstate [trimRight raw]
  | heredoc line text physical marker waiting body bodies =>
    simp only [step]
    split
    · exact afterText_opensWith hstate line _ _ _
    · exact hstate

/-- The line that opens a logical line. -/
theorem step_idle_opensWith {c : Char} (hblank : isBlank c = false) (hsign : c ≠ '#')
    (hslash : c ≠ '\\') (number : Nat) (cs : List Char) :
    StepOpensWith c (idle.step number (c :: cs)) := by
  have hpart : ∀ rest, (joinParts [c :: rest]).head? = some c := by
    intro rest
    simp only [joinParts, List.map_cons, List.map_nil, trim_cons hblank]
    rfl
  have hnotBlank : allBlank (c :: cs) = false := by simp [allBlank, hblank]
  have hnotComment : isCommentLine (c :: cs) = false := by
    simp [isCommentLine, trim_cons hblank, hsign]
  simp only [step, hnotBlank, hnotComment, Bool.false_eq_true, if_false]
  refine addPart_opensWith (fun front hfront => ?_) ?_ number []
  · -- the backslash is not the character in front, so the part keeps that character
    have hconcat : c :: trimRight cs = front ++ ['\\'] := by
      simp only [continued?, trimRight_cons hblank] at hfront
      split at hfront
      next back hreverse =>
        rw [← List.reverse_reverse (c :: trimRight cs), hreverse, List.reverse_cons]
        simp only [Option.some.injEq] at hfront
        rw [hfront]
      next => cases hfront
    cases front with
    | nil => exact absurd (List.cons.inj hconcat).1 hslash
    | cons d front =>
      obtain ⟨rfl, -⟩ := List.cons.inj hconcat
      exact hpart front
  · rw [trimRight_cons hblank]
    exact hpart (trimRight cs)

/-- If a step keeps `c` in front, and the lines after it do, so do all together. -/
theorem run_cons_opensWith {c : Char} {state : Assembly} {number : Nat} {raw : List Char}
    {lines : List (List Char)} {l : LogicalLine} {rest : List (Except ParseError LogicalLine)}
    (hstep : StepOpensWith c (state.step number raw))
    (hlines : ∀ next : Assembly, next.OpensWith c →
      next.run (number + 1) lines = .ok l :: rest → l.text.head? = some c)
    (hrun : state.run number (raw :: lines) = .ok l :: rest) : l.text.head? = some c := by
  rw [run] at hrun
  rcases hnext : state.step number raw with ⟨next, _ | line⟩
  · rw [hnext] at hrun hstep
    exact hlines next hstep hrun
  · rw [hnext] at hrun hstep
    simp only [List.cons.injEq, Except.ok.injEq] at hrun
    rw [← hrun.1]
    exact hstep

/-- The line that an open text becomes begins as the text does. -/
theorem run_opensWith {c : Char} {state : Assembly} (hstate : state.OpensWith c) {number : Nat}
    {lines : List (List Char)} {l : LogicalLine} {rest : List (Except ParseError LogicalLine)}
    (hrun : state.run number lines = .ok l :: rest) : l.text.head? = some c := by
  induction lines generalizing state number with
  | nil =>
    -- only a continuation is completed by the end of the document
    cases state with
    | idle => exact hstate.elim
    | joining line physical parts =>
      simp only [run, finish] at hrun
      split at hrun
      · simp only [List.cons.injEq, Except.ok.injEq] at hrun
        rw [← hrun.1]
        exact hstate
      · simp at hrun
    | heredoc line text physical marker waiting body bodies => simp [run, finish] at hrun
  | cons raw lines ih =>
    exact run_cons_opensWith (step_opensWith hstate number raw) (fun next hnext => ih hnext) hrun

/-- **What stands first in the physical lines of a logical line stands first in its
text.** -/
theorem text_head?_of_run {c : Char} (hblank : isBlank c = false) (hsign : c ≠ '#')
    (hslash : c ≠ '\\') {number : Nat} {cs : List Char} {lines : List (List Char)}
    {l : LogicalLine} {rest : List (Except ParseError LogicalLine)}
    (hrun : idle.run number ((c :: cs) :: lines) = .ok l :: rest) : l.text.head? = some c :=
  run_cons_opensWith (step_idle_opensWith hblank hsign hslash number cs)
    (fun _ hnext => run_opensWith hnext) hrun

end Assembly

end ContainerLint.Dockerfile
