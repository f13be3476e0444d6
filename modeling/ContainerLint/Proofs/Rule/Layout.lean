/-
Rules and the lines that they report.

A rule that goes from node to node is told the line of each node, and all that it does
with the line is to hand it on: to a note at once, or to one at the end by way of what it
remembers. So a build file whose nodes stand on other lines makes the same notes on those
lines, and stops at the same node if it does.
-/
import ContainerLint.Rule.Bundled

namespace ContainerLint

/-! ## Notes on other lines -/

/-- The note on another line. -/
def Note.mapLine (f : Nat → Nat) (n : Note) : Note :=
  { n with line := f n.line }

/-- The notes of a run on other lines. -/
def Trace.mapLines (f : Nat → Nat) (t : Trace) : Trace where
  steps := t.steps.map (List.map (Note.mapLine f))
  final := t.final.map (Note.mapLine f)

theorem Trace.notes_mapLines (f : Nat → Nat) (t : Trace) :
    (t.mapLines f).notes = t.notes.map (Note.mapLine f) := by
  simp only [notes, mapLines, List.map_append, List.map_flatten]

/-- The nodes on other lines. -/
def nodesOnLines {Node : Type} (f : Nat → Nat) (nodes : List (Nat × Node)) : List (Nat × Node) :=
  nodes.map fun e => (f e.1, e.2)

/-! ## Runs on other lines -/

/-- The checker hands lines on: on other lines it does the same, `move` saying what it
remembers then. -/
structure Checker.HandsLinesOn {Node State : Type} (c : Checker Node State) (f : Nat → Nat)
    (move : State → State) : Prop where
  start : move c.start = c.start
  step : ∀ s line n, c.step (move s) (f line) n =
    (c.step s line n).map (Prod.map move (List.map (Note.mapLine f)))
  finish : ∀ s, c.finish (move s) = (c.finish s).map (Note.mapLine f)

namespace Checker

variable {Node State : Type} {c : Checker Node State} {f : Nat → Nat} {move : State → State}

/-- **A run on other lines makes the same notes there**, or stops at the same node. -/
theorem HandsLinesOn.traceFrom (h : c.HandsLinesOn f move) (passed : Nat) (s : State)
    (nodes : List (Nat × Node)) :
    c.traceFrom passed (move s) (nodesOnLines f nodes) =
      (c.traceFrom passed s nodes).map (Trace.mapLines f) := by
  induction nodes generalizing passed s with
  | nil =>
    simp only [nodesOnLines, List.map_nil, Checker.traceFrom, h.finish]
    rfl
  | cons e nodes ih =>
    obtain ⟨line, n⟩ := e
    simp only [nodesOnLines, List.map_cons, Checker.traceFrom, h.step] at ih ⊢
    cases c.step s line n with
    | error e => rfl
    | ok r =>
      obtain ⟨u, found⟩ := r
      simp only [Except.map, Prod.map]
      rw [ih]
      cases c.traceFrom (passed + 1) u nodes with
      | error stop => rfl
      | ok t => rfl

/-- A checker that hands lines on makes the same notes on other lines. -/
theorem HandsLinesOn.trace (h : c.HandsLinesOn f move) (nodes : List (Nat × Node)) :
    c.trace (nodesOnLines f nodes) = (c.trace nodes).map (Trace.mapLines f) := by
  have htrace := h.traceFrom 0 c.start nodes
  rwa [h.start] at htrace

end Checker

/-- The check makes the same notes on other lines. -/
def Check.HandsLinesOn : Check → Prop
  | .nodes run => ∀ f options nodes,
      run options (nodesOnLines f nodes) = (run options nodes).map (Trace.mapLines f)
  | _ => True

/-! ## The rules -/

namespace Dockerfile

theorem handsLinesOn_follow {State : Type} {c : NodeChecker State}
    (h : ∀ f, ∃ move, c.HandsLinesOn f move) : (follow c).HandsLinesOn := by
  intro f options nodes
  obtain ⟨move, hmove⟩ := h f
  exact hmove.trace nodes

/-- The step hands its line on to its notes, and remembers nothing of it. -/
def HandsLineToNotes {State : Type} (step : State → Nat → Node → State × List Note) : Prop :=
  ∀ (f : Nat → Nat) s line n,
    step s (f line) n = Prod.map id (List.map (Note.mapLine f)) (step s line n)

/-- A checker hands lines on if its step hands its line to its notes. -/
theorem handsLinesOn_ofStep {State : Type} {step : State → Nat → Node → State × List Note}
    (h : HandsLineToNotes step) (start : State) :
    (follow (Checker.ofStep start step fun _ => [])).HandsLinesOn := by
  refine handsLinesOn_follow fun f => ⟨id, ?_⟩
  exact { start := rfl
          step := fun s line n => congrArg Except.ok (h f s line n)
          finish := fun _ => rfl }

theorem handsLinesOn_always (holds : Node → Bool) : (always holds).HandsLinesOn := by
  refine handsLinesOn_ofStep (fun f s line n => ?_) ()
  split <;> rfl

/-! ### Steps that remember no lines -/

theorem stepTagged_handsLineToNotes : HandsLineToNotes stepTagged := by
  intro f stages line n
  unfold stepTagged
  split
  next =>
    dsimp only
    split <;> rfl
  next => rfl

theorem stepUnique_handsLineToNotes : HandsLineToNotes stepUnique := by
  intro f stages line n
  unfold stepUnique
  split
  next =>
    split
    next =>
      dsimp only
      split <;> rfl
    next => rfl
  next => rfl

theorem stepOnce_handsLineToNotes (isKind : Instruction → Bool) :
    HandsLineToNotes (stepOnce isKind) := by
  intro f seen line n
  unfold stepOnce
  split
  next => rfl
  next =>
    split
    next => split <;> rfl
    next => rfl

theorem stepCopyFromSelf_handsLineToNotes : HandsLineToNotes stepCopyFromSelf := by
  intro f current line n
  unfold stepCopyFromSelf
  split
  next => rfl
  next =>
    split
    next => split <;> rfl
    next => rfl
  next => rfl

theorem stepRelativeCopy_handsLineToNotes : HandsLineToNotes stepRelativeCopy := by
  intro f w line n
  unfold stepRelativeCopy
  split
  next => rfl
  next => rfl
  next => split <;> rfl
  next => rfl

theorem stepRuns_handsLineToNotes : HandsLineToNotes stepRuns := by
  intro f afterRun line n
  unfold stepRuns
  split
  next => split <;> rfl
  next => rfl

theorem stepPipefail_handsLineToNotes : HandsLineToNotes stepPipefail := by
  intro f safe line n
  unfold stepPipefail
  split
  next => rfl
  next => rfl
  next =>
    split
    next => split <;> rfl
    next => rfl

/-! ### Steps that can stop -/

/-- A step that can stop hands its line on to its notes, and remembers nothing of it. -/
def HandsLineToNotesOrStops {State : Type}
    (step : State → Nat → Node → Except RuleError (State × List Note)) : Prop :=
  ∀ (f : Nat → Nat) s line n,
    step s (f line) n = (step s line n).map (Prod.map id (List.map (Note.mapLine f)))

/-- Whether it stops does not hang on the line either. -/
theorem stepCopyFrom_handsLineToNotesOrStops : HandsLineToNotesOrStops stepCopyFrom := by
  intro f stages line n
  unfold stepCopyFrom
  split
  next => rfl
  next =>
    split
    next => rfl
    next origin _ =>
      dsimp only
      cases indexOf? (Text.lower origin) with
      | error e => rfl
      | ok index =>
        refine congrArg (fun notes => Except.ok (stages, notes)) ?_
        split <;> rfl
  next => rfl

theorem stepTrusted_handsLineToNotesOrStops (trusted : Value) :
    HandsLineToNotesOrStops (stepTrusted trusted) := by
  intro f stages line n
  unfold stepTrusted
  split
  next =>
    split
    next => rfl
    next =>
      split
      next => rfl
      next =>
        dsimp only
        generalize isTrusted _ _ = answer
        cases answer with
        | error e => rfl
        | ok trusted =>
          refine congrArg (fun notes => Except.ok (_, notes)) ?_
          split <;> rfl
  next => rfl

theorem handsLinesOn_copyFromKnown : (follow copyFromKnown).HandsLinesOn :=
  handsLinesOn_follow fun f =>
    ⟨id, rfl, stepCopyFrom_handsLineToNotesOrStops f, fun _ => rfl⟩

theorem handsLinesOn_trustedRegistry :
    (Check.nodes fun options => (trustedRegistry options).trace).HandsLinesOn := by
  intro f options nodes
  have hchecker : (trustedRegistry options).HandsLinesOn f id :=
    ⟨rfl, stepTrusted_handsLineToNotesOrStops _ f, fun _ => rfl⟩
  exact hchecker.trace nodes

/-! ### Steps that remember lines -/

/-- This rule remembers a line, which moves with the others. -/
theorem handsLinesOn_lastUser : (follow lastUser).HandsLinesOn := by
  refine handsLinesOn_follow fun f =>
    ⟨Option.map fun last => (f last.1, last.2), rfl, fun last line n => ?_, fun last => ?_⟩
  · refine congrArg Except.ok ?_
    unfold stepUser
    split <;> rfl
  · cases last with
    | none => rfl
    | some last =>
      simp only [lastUser, Checker.ofStep, Option.map_some]
      split <;> rfl

/-- This rule remembers many lines, which all move. -/
theorem handsLinesOn_oneDownloader : (follow oneDownloader).HandsLinesOn := by
  refine handsLinesOn_follow fun f =>
    ⟨fun d => ⟨d.wget.map f, d.curl.map f⟩, rfl, fun d line n => ?_, fun d => ?_⟩
  · refine congrArg Except.ok ?_
    unfold stepDownloads
    split
    next s _ =>
      -- the line of a script is added or not, before it moves as after
      have hlines : ∀ (uses : Bool) (lines : List Nat),
          (if uses then lines.map f ++ [f line] else lines.map f) =
            (if uses then lines ++ [line] else lines).map f := by
        intro uses lines
        cases uses with
        | true =>
          rw [if_pos rfl, if_pos rfl, List.map_append]
          rfl
        | false => rfl
      simp only [hlines]
      rfl
    next => rfl
  · change (if (d.wget.map f).isEmpty || (d.curl.map f).isEmpty then [] else
      (d.wget.map f ++ d.curl.map f).flatMap noteAt) =
        (if d.wget.isEmpty || d.curl.isEmpty then [] else (d.wget ++ d.curl).flatMap noteAt).map _
    rw [List.isEmpty_map, List.isEmpty_map]
    split
    next => rfl
    next =>
      rw [← List.map_append, List.flatMap_map, List.map_flatMap]
      rfl

/-- **The rules for build files hand lines on.** -/
theorem bundledRules_handLinesOn : ∀ r ∈ bundledRules, r.check.HandsLinesOn := by
  unfold bundledRules
  simp only [List.forall_mem_cons, List.not_mem_nil, false_imp_iff, implies_true, and_true,
    handsLinesOn_always, true_and]
  exact ⟨handsLinesOn_lastUser,                                 -- last-user-not-root
    handsLinesOn_ofStep stepTagged_handsLineToNotes _,          -- tag-image-version
    handsLinesOn_ofStep (stepOnce_handsLineToNotes _) _,        -- single-healthcheck
    handsLinesOn_copyFromKnown,                                 -- copy-from-known-stage
    handsLinesOn_ofStep stepCopyFromSelf_handsLineToNotes _,    -- copy-from-other-stage
    handsLinesOn_ofStep stepUnique_handsLineToNotes _,          -- unique-stage-alias
    handsLinesOn_trustedRegistry,                               -- trusted-registry
    handsLinesOn_ofStep stepRelativeCopy_handsLineToNotes _,    -- copy-relative-without-workdir
    trivial,                                                    -- healthcheck-missing
    handsLinesOn_ofStep stepRuns_handsLineToNotes _,            -- consolidate-run
    handsLinesOn_oneDownloader,                                 -- wget-or-curl
    handsLinesOn_ofStep (stepOnce_handsLineToNotes _) _,        -- single-cmd
    handsLinesOn_ofStep (stepOnce_handsLineToNotes _) _,        -- single-entrypoint
    handsLinesOn_ofStep stepPipefail_handsLineToNotes _⟩        -- pipefail

end Dockerfile

end ContainerLint
