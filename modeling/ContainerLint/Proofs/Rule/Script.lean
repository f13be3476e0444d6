/-
Rules for build files where the scripts of commands are not read.

A build file may name a shell of another language for its commands. Then rules see the
commands, but no scripts. No rule finds anything new for that: a condition that asks for
the script holds of a command without one, a rule that collects tools finds none, and a
rule that keeps track of the stage's shell takes what it knows from other instructions.

The rules are state machines, so that two runs are compared, one with the scripts and
one without. They go through states that stay related, and at each node the second notes
a part of what the first notes.
-/
import ContainerLint.Rule.Bundled
import Mathlib.Data.List.Flatten

namespace ContainerLint

/-! ## Runs of checkers that are compared node by node -/

namespace Checker

variable {Node State : Type} {c : Checker Node State}

/-- A run that comes to its end makes a step, and then a run that comes to its end. -/
theorem traceFrom_cons_eq_ok_iff {passed line : Nat} {s : State} {n : Node}
    {nodes : List (Nat × Node)} {t : Trace} :
    c.traceFrom passed s ((line, n) :: nodes) = .ok t ↔
      ∃ u found rest, c.step s line n = .ok (u, found) ∧
        c.traceFrom (passed + 1) u nodes = .ok rest ∧
        { rest with steps := found :: rest.steps } = t := by
  rw [traceFrom]
  constructor
  · intro h
    split at h
    · cases h
    · rename_i u found hstep
      split at h
      · cases h
      · rename_i rest hrest
        exact ⟨u, found, rest, hstep, hrest, Except.ok.inj h⟩
  · rintro ⟨u, found, rest, hstep, hrest, rfl⟩
    rw [hstep]
    dsimp only
    rw [hrest]

/-- **Two runs of a checker**, the second on nodes that have been changed. If related
states stay related and the second run notes a part of what the first does, at each node
and at the end, then it does so on the whole. -/
theorem notes_sublist {change : Node → Node} {R : State → State → Prop}
    (hstep : ∀ s s' line n u found u' found', R s s' → c.step s line n = .ok (u, found) →
      c.step s' line (change n) = .ok (u', found') → R u u' ∧ found'.Sublist found)
    (hfinish : ∀ s s', R s s' → (c.finish s').Sublist (c.finish s))
    {nodes : List (Nat × Node)} {passed : Nat} {s s' : State} {t t' : Trace} (hs : R s s')
    (h : c.traceFrom passed s nodes = .ok t)
    (h' : c.traceFrom passed s' (nodes.map fun e => (e.1, change e.2)) = .ok t') :
    t'.notes.Sublist t.notes := by
  induction nodes generalizing passed s s' t t' with
  | nil =>
    rw [← Except.ok.inj h, ← Except.ok.inj h']
    exact hfinish s s' hs
  | cons node nodes ih =>
    obtain ⟨line, n⟩ := node
    obtain ⟨u, found, rest, hu, hrest, rfl⟩ := traceFrom_cons_eq_ok_iff.mp h
    obtain ⟨u', found', rest', hu', hrest', rfl⟩ := traceFrom_cons_eq_ok_iff.mp h'
    obtain ⟨hrelated, hfound⟩ := hstep s s' line n u found u' found' hs hu hu'
    have hnotes : rest'.notes.Sublist rest.notes := ih hrelated hrest hrest'
    unfold Trace.notes at hnotes ⊢
    rw [List.flatten_cons, List.flatten_cons, List.append_assoc, List.append_assoc]
    exact hfound.append hnotes

end Checker

namespace Dockerfile

/-! ## Nodes without scripts -/

/-- The node as it is seen where scripts are not read. -/
def Node.withoutScript (n : Node) : Node :=
  { n with script := none }

/-- The nodes as they are seen where scripts are not read. -/
def withoutScripts (nodes : List (Nat × Node)) : List (Nat × Node) :=
  nodes.map fun e => (e.1, e.2.withoutScript)

theorem Node.ofInstruction_false (i : Instruction) :
    ofInstruction false i = (ofInstruction true i).withoutScript := by
  cases i <;> rfl

/-- A shell that is not understood leaves the nodes without their scripts. -/
theorem Node.ofEntries_false (entries : List Positioned) :
    ofEntries false entries = withoutScripts (ofEntries true entries) := by
  unfold ofEntries withoutScripts
  rw [List.map_flatMap]
  refine congrArg (List.flatMap · entries) (funext fun entry => ?_)
  unfold ofEntry
  by_cases hcomment : entry.instruction.isComment = true
  · rw [if_pos hcomment, if_pos hcomment]
    rfl
  · rw [if_neg hcomment, if_neg hcomment, List.map_map]
    refine congrArg (List.map · entry.instruction.nodes) (funext fun i => ?_)
    exact congrArg (entry.line, ·) (ofInstruction_false i)

end Dockerfile

/-- Where scripts are not read, the check finds a part of what it finds otherwise. -/
def Check.FindsFewerWithoutScripts : Check → Prop
  | .nodes run => ∀ options nodes t t', run options nodes = .ok t →
      run options (Dockerfile.withoutScripts nodes) = .ok t' → t'.notes.Sublist t.notes
  | _ => True

namespace Dockerfile

/-! ## Kinds of checks -/

/-- The checker does not ask for scripts. -/
def IgnoresScripts {State : Type} (c : NodeChecker State) : Prop :=
  ∀ s line n, c.step s line n.withoutScript = c.step s line n

/-- A rule that does not look at scripts finds the same without them. -/
theorem findsFewer_of_ignoresScripts {State : Type} (checker : RuleOptions → NodeChecker State)
    (h : ∀ options, IgnoresScripts (checker options)) :
    (Check.nodes fun options => (checker options).trace).FindsFewerWithoutScripts := by
  intro options nodes t t' ht ht'
  refine Checker.notes_sublist (R := Eq) ?_ ?_ rfl ht ht'
  · rintro s _ line n u found u' found' rfl hu hu'
    rw [h options, hu] at hu'
    obtain ⟨rfl, rfl⟩ := Prod.mk.inj (Except.ok.inj hu')
    exact ⟨rfl, List.Sublist.refl _⟩
  · rintro s _ rfl
    exact List.Sublist.refl _

theorem findsFewer_follow {State : Type} {c : NodeChecker State} (h : IgnoresScripts c) :
    (follow c).FindsFewerWithoutScripts :=
  findsFewer_of_ignoresScripts (fun _ => c) fun _ => h

/-- A condition on single nodes finds fewer if it holds without the script wherever it
holds with it. -/
theorem findsFewer_always {holds : Node → Bool}
    (h : ∀ n, holds n = true → holds n.withoutScript = true) :
    (always holds).FindsFewerWithoutScripts := by
  intro options nodes t t' ht ht'
  refine Checker.notes_sublist (R := fun _ _ => True) ?_ ?_ trivial ht ht'
  · rintro s s' line n u found u' found' - hu hu'
    obtain ⟨-, rfl⟩ := Prod.mk.inj (Except.ok.inj hu)
    obtain ⟨-, rfl⟩ := Prod.mk.inj (Except.ok.inj hu')
    refine ⟨trivial, ?_⟩
    by_cases hn : holds n = true
    · simp only [hn, h n hn, if_true, List.Sublist.refl]
    · rw [if_neg hn]
      split
      · exact List.nil_sublist _
      · exact List.Sublist.refl _
  · intro s s' _
    exact List.Sublist.refl _

/-- Without scripts no tool is seen, so that there are never two. -/
theorem findsFewer_oneDownloader : (follow oneDownloader).FindsFewerWithoutScripts := by
  intro options nodes t t' ht ht'
  refine Checker.notes_sublist (R := fun _ seen => seen = ⟨[], []⟩) ?_ ?_ rfl ht ht'
  · rintro d _ line n u found u' found' rfl - hu'
    obtain ⟨rfl, rfl⟩ := Prod.mk.inj (Except.ok.inj hu')
    exact ⟨rfl, List.nil_sublist _⟩
  · rintro d _ rfl
    exact List.nil_sublist _

/-- What is known of the stage's shell comes from other instructions, and without scripts
no pipe is seen. -/
theorem findsFewer_pipefail : (follow pipefail).FindsFewerWithoutScripts := by
  intro options nodes t t' ht ht'
  refine Checker.notes_sublist (R := Eq) ?_ ?_ rfl ht ht'
  · rintro safe _ line n u found u' found' rfl hu hu'
    have hstep : (stepPipefail safe line n.withoutScript).1 = (stepPipefail safe line n).1 ∧
        (stepPipefail safe line n.withoutScript).2.Sublist (stepPipefail safe line n).2 := by
      unfold stepPipefail Node.withoutScript
      dsimp only
      cases n.instruction with
      | base | shell => exact ⟨rfl, List.Sublist.refl _⟩
      | _ => cases n.script <;> exact ⟨rfl, List.nil_sublist _⟩
    obtain ⟨rfl, rfl⟩ := Prod.mk.inj (Except.ok.inj hu)
    obtain ⟨rfl, rfl⟩ := Prod.mk.inj (Except.ok.inj hu')
    exact ⟨hstep.1.symm, hstep.2⟩
  · rintro safe _ rfl
    exact List.Sublist.refl _

/-- **No rule for build files finds more where scripts are not read.** -/
theorem bundledRules_findFewer : ∀ r ∈ bundledRules, r.check.FindsFewerWithoutScripts := by
  unfold bundledRules
  simp only [List.forall_mem_cons, List.not_mem_nil, false_imp_iff, implies_true, and_true]
  exact ⟨findsFewer_always fun _ h => h,           -- absolute-workdir
    findsFewer_follow fun _ _ _ => rfl,            -- last-user-not-root
    findsFewer_always fun _ _ => rfl,              -- no-sudo
    findsFewer_follow fun _ _ _ => rfl,            -- tag-image-version
    findsFewer_always fun _ h => h,                -- no-latest-tag
    findsFewer_follow fun _ _ _ => rfl,            -- single-healthcheck
    findsFewer_always fun _ _ => rfl,              -- apt-no-install-recommends
    findsFewer_always fun _ h => h,                -- copy-not-add
    findsFewer_follow fun _ _ _ => rfl,            -- copy-from-known-stage
    findsFewer_follow fun _ _ _ => rfl,            -- copy-from-other-stage
    findsFewer_follow fun _ _ _ => rfl,            -- unique-stage-alias
    findsFewer_always fun _ h => h,                -- json-cmd
    findsFewer_of_ignoresScripts trustedRegistry fun _ _ _ _ => rfl, -- trusted-registry
    findsFewer_always fun _ _ => rfl,              -- pip-no-cache-dir
    findsFewer_always fun _ h => h,                -- env-self-reference
    findsFewer_follow fun _ _ _ => rfl,            -- copy-relative-without-workdir
    findsFewer_always fun _ h => h,                -- label-key
    trivial,                                       -- healthcheck-missing
    findsFewer_follow fun _ _ _ => rfl,            -- consolidate-run
    findsFewer_always fun _ h => h,                -- maintainer-deprecated
    findsFewer_oneDownloader,                      -- wget-or-curl
    findsFewer_follow fun _ _ _ => rfl,            -- single-cmd
    findsFewer_follow fun _ _ _ => rfl,            -- single-entrypoint
    findsFewer_pipefail⟩                           -- pipefail

end Dockerfile

/-- The rules for charts do not look at build files. -/
theorem Chart.bundledRules_findFewer :
    ∀ r ∈ bundledRules, r.check.FindsFewerWithoutScripts := by
  unfold bundledRules
  simp only [List.forall_mem_cons, List.not_mem_nil, false_imp_iff, implies_true, and_true,
    Chart.always, Chart.attempt, Chart.follow, Check.FindsFewerWithoutScripts]

/-- No bundled rule finds more without scripts. -/
theorem Catalogue.bundled_findsFewer :
    ∀ r ∈ Catalogue.bundled.rules, r.check.FindsFewerWithoutScripts := by
  intro r hr
  rcases List.mem_append.mp hr with hr | hr
  · exact Dockerfile.bundledRules_findFewer r hr
  · exact Chart.bundledRules_findFewer r hr

end ContainerLint
