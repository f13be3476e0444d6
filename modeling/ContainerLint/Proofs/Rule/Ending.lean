/-
Which rules can stop.

A rule that cannot be carried through stops the whole run, so it matters which ones can
be. Of all rules there are four. Two read a number: the number of a stage that files are
copied from, and the count of replicas. One reads a number and may have to write it: that
of a port. One searches what an option gives it. All others come to an end on everything.
-/
import ContainerLint.Proofs.Result
import ContainerLint.Proofs.Rule.Script

namespace ContainerLint

/-! ## Runs that come to their end -/

/-- **A checker comes to its end** on nodes that each of its steps can take. -/
theorem Checker.exists_traceFrom {Node State : Type} {c : Checker Node State} {p : Node → Prop}
    (hstep : ∀ s line n, p n → ∃ r, c.step s line n = .ok r) {nodes : List (Nat × Node)}
    (hnodes : ∀ e ∈ nodes, p e.2) (passed : Nat) (s : State) :
    ∃ t, c.traceFrom passed s nodes = .ok t := by
  induction nodes generalizing passed s with
  | nil => exact ⟨_, rfl⟩
  | cons e nodes ih =>
    obtain ⟨line, n⟩ := e
    obtain ⟨⟨u, found⟩, hu⟩ := hstep s line n (hnodes _ List.mem_cons_self)
    obtain ⟨rest, hrest⟩ := ih (fun e he => hnodes e (List.mem_cons_of_mem _ he)) (passed + 1) u
    exact ⟨_, traceFrom_cons_eq_ok_iff.mpr ⟨u, found, rest, hu, hrest, rfl⟩⟩

/-- **A checker that stops does so at a node**, with the error of its step there. -/
theorem Checker.exists_of_traceFrom_eq_error {Node State : Type} {c : Checker Node State}
    {nodes : List (Nat × Node)} {passed : Nat} {s : State} {stop : Stop}
    (h : c.traceFrom passed s nodes = .error stop) :
    ∃ e ∈ nodes, ∃ u, c.step u e.1 e.2 = .error stop.error := by
  induction nodes generalizing passed s with
  | nil => cases h
  | cons e nodes ih =>
    obtain ⟨line, n⟩ := e
    rw [traceFrom] at h
    split at h
    next error hstep =>
      cases h
      exact ⟨(line, n), List.mem_cons_self, s, hstep⟩
    next u found hstep =>
      split at h
      next stop' hrest =>
        cases h
        obtain ⟨e, he, hfound⟩ := ih hrest
        exact ⟨e, List.mem_cons_of_mem _ he, hfound⟩
      next => cases h

/-- The check comes to an end on everything. -/
def Check.AlwaysEnds : Check → Prop
  | .nodes run => ∀ options nodes, ∃ trace, run options nodes = .ok trace
  | .buildFile _ => True
  | .tokens run => ∀ options tokens, ∃ trace, run options tokens = .ok trace
  | .chart check => ∀ info options view, ∃ found, check info options view = .ok found

theorem Checker.exists_trace_ofStep {Node State : Type} (start : State)
    (step : State → Nat → Node → State × List Note) (finish : State → List Note)
    (nodes : List (Nat × Node)) : ∃ t, (ofStep start step finish).trace nodes = .ok t :=
  exists_traceFrom (p := fun _ => True) (fun s line n _ => ⟨step s line n, rfl⟩)
    (fun _ _ => trivial) 0 start

/-! ## The rules -/

namespace Dockerfile

theorem alwaysEnds_ofStep {State : Type} (start : State)
    (step : State → Nat → Node → State × List Note) (finish : State → List Note) :
    (follow (Checker.ofStep start step finish)).AlwaysEnds :=
  fun _ nodes => Checker.exists_trace_ofStep start step finish nodes

/-- How a rule for build files can end. -/
inductive Ending (r : Rule) : Prop
  /-- It always comes to its end. -/
  | always : r.check.AlwaysEnds → Ending r
  /-- It reads the numbers of stages. -/
  | stages : r.check = follow copyFromKnown → Ending r
  /-- It searches an option. -/
  | registries : r.code = "DL3026" →
      r.check = .nodes (fun options => (trustedRegistry options).trace) → Ending r

/-- **Of the rules for build files, two can stop.** -/
theorem bundledRules_ending : ∀ r ∈ bundledRules, Ending r := by
  unfold bundledRules
  simp only [List.forall_mem_cons, List.not_mem_nil, false_imp_iff, implies_true, and_true]
  and_intros
  all_goals first
    | exact .stages rfl
    | exact .registries rfl rfl
    | exact .always trivial
    | exact .always (alwaysEnds_ofStep _ _ _)

theorem domain_of_mem_bundledRules : ∀ r ∈ bundledRules, r.check.domain = .dockerfile := by
  unfold bundledRules
  simp only [List.forall_mem_cons, List.not_mem_nil, false_imp_iff, implies_true, and_true]
  and_intros
  all_goals rfl

end Dockerfile

namespace Chart

theorem alwaysEnds_ofStep {State : Type} (start : State)
    (step : State → Nat → Template.Token → State × List Note) (finish : State → List Note) :
    (follow (Checker.ofStep start step finish)).AlwaysEnds :=
  fun _ tokens => Checker.exists_trace_ofStep start step finish tokens

/-- How a rule for charts can end. -/
inductive Ending (r : Rule) : Prop
  /-- It always comes to its end. -/
  | always : r.check.AlwaysEnds → Ending r
  /-- It reads the numbers of ports. -/
  | ports : r.code = "HL2005" → r.check = attempt badPorts → Ending r
  /-- It reads the counts of replicas. -/
  | replicas : r.code = "HL2008" → r.check = attempt zeroReplicas → Ending r

theorem ending_always (info : RuleInfo) (find : View → List Finding) : Ending ⟨info, always find⟩ :=
  .always fun info _ view => ⟨failuresOf info (find view), rfl⟩

/-- **Of the rules for charts, two can stop.** -/
theorem bundledRules_ending : ∀ r ∈ bundledRules, Ending r := by
  unfold bundledRules
  simp only [List.forall_mem_cons, List.not_mem_nil, false_imp_iff, implies_true, and_true,
    true_and, ending_always]
  exact ⟨.ports rfl rfl,                    -- invalid-port
    .replicas rfl rfl,                      -- zero-replicas
    .always (alwaysEnds_ofStep _ _ _),      -- deprecated-function
    .always (alwaysEnds_ofStep _ _ _),      -- privileged-container
    .always (alwaysEnds_ofStep _ _ _)⟩      -- host-network

theorem domain_of_mem_bundledRules : ∀ r ∈ bundledRules, r.check.domain = .chart := by
  unfold bundledRules
  simp only [List.forall_mem_cons, List.not_mem_nil, false_imp_iff, implies_true, and_true]
  and_intros
  all_goals rfl

theorem exists_portRule : ∃ r ∈ bundledRules, r.code = "HL2005" ∧ r.check = attempt badPorts :=
  ⟨_, List.mem_of_getElem? (i := 19) rfl, rfl, rfl⟩

theorem exists_replicaRule :
    ∃ r ∈ bundledRules, r.code = "HL2008" ∧ r.check = attempt zeroReplicas :=
  ⟨_, List.mem_of_getElem? (i := 21) rfl, rfl, rfl⟩

end Chart

/-! ## The rules of a domain -/

namespace Catalogue

/-- A bundled rule on Dockerfiles is one of theirs. -/
theorem mem_dockerfile_bundledRules {r : Rule} (hr : r ∈ Catalogue.bundled.rules)
    (hdomain : r.check.domain = .dockerfile) : r ∈ Dockerfile.bundledRules := by
  refine (List.mem_append.mp hr).resolve_right fun hchart => ?_
  rw [Chart.domain_of_mem_bundledRules r hchart] at hdomain
  cases hdomain

/-- A bundled rule on charts is one of theirs. -/
theorem mem_chart_bundledRules {r : Rule} (hr : r ∈ Catalogue.bundled.rules)
    (hdomain : r.check.domain = .chart) : r ∈ Chart.bundledRules := by
  refine (List.mem_append.mp hr).resolve_left fun hdockerfile => ?_
  rw [Dockerfile.domain_of_mem_bundledRules r hdockerfile] at hdomain
  cases hdomain

end Catalogue

end ContainerLint
