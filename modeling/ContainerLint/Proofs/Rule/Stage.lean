/-
Stages, and rules that look at one stage only.

A base image starts a stage, and the nodes up to the next one belong to it. Nodes before
the first base image count as a stage as well, one that starts from nothing.

Some rules remember nothing of a stage that has ended, whatever was in it. Their findings
on a build file are those on its stages, one after the other, and the rule on users, which
reports at the end, reports what it finds in the last stage. The rules on instructions
that may occur once report the second and each later one of a stage.
-/
import ContainerLint.Proofs.Rule.Run

namespace ContainerLint.Dockerfile

open ContainerLint.Text

/-! ## Stages -/

/-- The base image of the stage that the node starts, if it starts one. -/
def Node.base? (n : Node) : Option Image :=
  match n.instruction with
  | .base image => some image
  | _ => none

theorem Node.base?_eq_some_iff {n : Node} {image : Image} :
    n.base? = some image ↔ n.instruction = .base image := by
  unfold base?
  cases n.instruction with
  | base => rw [Option.some.injEq, Instruction.base.injEq]
  | _ => exact iff_of_false nofun nofun

/-- The base images of nodes, in order. -/
def basesOf (nodes : List (Nat × Node)) : List Image :=
  nodes.filterMap fun e => e.2.base?

/-- A node adds its base, if it is one. -/
theorem basesOf_concat (nodes : List (Nat × Node)) (line : Nat) (n : Node) :
    basesOf (nodes ++ [(line, n)]) = basesOf nodes ++ n.base?.toList := by
  unfold basesOf
  rw [List.filterMap_append]
  cases hn : n.base? <;> simp [hn]

/-- A stage is called by its name in lower case, and an empty name is none. -/
theorem stageOf_eq_some_iff {image : Image} {name : String} : stageOf image = some name ↔
    ∃ stage, image.stage = some stage ∧ stage ≠ "" ∧ lower stage = name := by
  unfold stageOf
  cases image.stage with
  | none => exact iff_of_false nofun nofun
  | some stage => by_cases hempty : stage = "" <;> simp [hempty]

/-- The stage of the base image has the name, whatever the case of the letters. A stage whose
name is empty has none. -/
def Image.IsCalled (image : Image) (name : String) : Prop :=
  ∃ stage, image.stage = some stage ∧ stage ≠ "" ∧ lower stage = lower name

/-- Names of stages are compared in lower case. -/
theorem Image.isCalled_iff {image : Image} {name : String} :
    image.IsCalled name ↔ stageOf image = some (lower name) :=
  stageOf_eq_some_iff.symm

/-- A stage: its base image, and its other nodes in order. -/
structure Stage where
  base : Option Image
  nodes : List Node

/-- An instruction of a kind occurs in the stage. -/
def Stage.Has (s : Stage) (keyword : String) : Prop :=
  ∃ n ∈ s.nodes, n.instruction.keyword = keyword

/-- The stage that nodes end in, and the stages before it, the latest first. -/
structure Stages where
  current : Stage
  earlier : List Stage

namespace Stages

/-- The stages with one more node. -/
def add (s : Stages) (n : Node) : Stages :=
  match n.base? with
  | some image => ⟨⟨some image, []⟩, s.current :: s.earlier⟩
  | none => { s with current := { s.current with nodes := s.current.nodes ++ [n] } }

/-- The stages of nodes. -/
def ofNodes (nodes : List (Nat × Node)) : Stages :=
  nodes.foldl (fun s e => s.add e.2) ⟨⟨none, []⟩, []⟩

theorem ofNodes_concat (nodes : List (Nat × Node)) (line : Nat) (n : Node) :
    ofNodes (nodes ++ [(line, n)]) = (ofNodes nodes).add n := by
  unfold ofNodes
  rw [List.foldl_append]
  rfl

/-- A base opens a stage. -/
theorem add_of_base {n : Node} {image : Image} (h : n.base? = some image) (s : Stages) :
    s.add n = ⟨⟨some image, []⟩, s.current :: s.earlier⟩ := by
  rw [add, h]

/-- Any other node joins the current stage. -/
theorem add_of_not_base {n : Node} (h : n.base? = none) (s : Stages) :
    s.add n = { s with current := { s.current with nodes := s.current.nodes ++ [n] } } := by
  rw [add, h]

end Stages

/-- A stage has an instruction if it had it, or the new node is one. -/
theorem Stage.has_concat_iff {s : Stage} {n : Node} {keyword : String} :
    Stage.Has { s with nodes := s.nodes ++ [n] } keyword ↔
      s.Has keyword ∨ n.instruction.keyword = keyword := by
  unfold Has
  simp only [List.mem_append, List.mem_singleton, or_and_right, exists_or, exists_eq_left]

theorem Stage.not_has_of_nil (base : Option Image) (keyword : String) :
    ¬ Stage.Has ⟨base, []⟩ keyword :=
  fun ⟨_, hn, _⟩ => List.not_mem_nil hn

/-! ## Rules that check each stage for itself -/

/-- The nodes start with a base image. -/
def StartsStage (nodes : List (Nat × Node)) : Prop :=
  ∃ line n rest image, nodes = (line, n) :: rest ∧ n.base? = some image

/-- What is found in nodes and then in those of further stages is what is found in each
alone. -/
def ChecksStagesApart (run : List (Nat × Node) → Option (Except Stop Trace)) : Prop :=
  ∀ xs ys, StartsStage ys → ∃ t u v, run xs = some (.ok t) ∧ run ys = some (.ok u) ∧
    run (xs ++ ys) = some (.ok v) ∧ v.steps = t.steps ++ u.steps ∧ v.notes = t.notes ++ u.notes

/-- What is found in further stages is all that is found. -/
def ChecksLastStage (run : List (Nat × Node) → Option (Except Stop Trace)) : Prop :=
  ∀ xs ys, StartsStage ys → ∃ u v, run ys = some (.ok u) ∧ run (xs ++ ys) = some (.ok v) ∧
    v.notes = u.notes

variable {State : Type} {start : State} {step : State → Nat → Node → State × List Note}

/-- The step to a base image does not depend on what came before. -/
def ForgetsStage (start : State) (step : State → Nat → Node → State × List Note) : Prop :=
  ∀ s line n image, n.instruction = .base image → step s line n = step start line n

/-- **A run over a further stage** goes on as if it started there. -/
theorem ForgetsStage.trace_append (h : ForgetsStage start step) (finish : State → List Note)
    (xs : List (Nat × Node)) {ys : List (Nat × Node)} (hys : StartsStage ys) :
    ∃ t u, (Checker.ofStep start step finish).trace xs = .ok t ∧
      (Checker.ofStep start step finish).trace ys = .ok u ∧
      (Checker.ofStep start step finish).trace (xs ++ ys) = .ok ⟨t.steps ++ u.steps, u.final⟩ := by
  obtain ⟨line, n, ys, image, rfl, hn⟩ := hys
  obtain ⟨t, ht⟩ := Checker.exists_trace_ofStep start step finish xs
  obtain ⟨u, hu⟩ := Checker.exists_trace_ofStep start step finish ((line, n) :: ys)
  have hforgets : (Checker.ofStep start step finish).ForgetsAt fun n => n.base? = some image :=
    fun s line n hn => congrArg Except.ok (h s line n image (Node.base?_eq_some_iff.mp hn))
  exact ⟨t, u, ht, hu, hforgets.trace_append hn ht hu⟩

/-- A rule that forgets at each base checks each stage by itself. -/
theorem ForgetsStage.checksStagesApart (h : ForgetsStage start step) :
    ChecksStagesApart fun nodes =>
      some ((Checker.ofStep start step fun _ => []).trace nodes) := by
  intro xs ys hys
  obtain ⟨t, u, ht, hu, hv⟩ := h.trace_append (fun _ => []) xs hys
  refine ⟨t, u, _, congrArg some ht, congrArg some hu, congrArg some hv, rfl, ?_⟩
  -- nothing is noted at the end, so that notes are those of the steps
  have hfinal : t.final = [] := (Checker.traceFrom_eq_ok_iff.mp ht).choose_spec.2
  unfold Trace.notes
  rw [hfinal, List.append_nil, List.flatten_append, List.append_assoc]

theorem forgetsStage_stepOnce (isKind : Instruction → Bool) :
    ForgetsStage false (stepOnce isKind) := by
  intro s line n image hn
  rw [stepOnce, stepOnce, hn]

theorem forgetsStage_stepRuns : ForgetsStage false stepRuns := by
  intro s line n image hn
  rw [stepRuns, stepRuns, hn]

theorem forgetsStage_stepPipefail : ForgetsStage false stepPipefail := by
  intro s line n image hn
  rw [stepPipefail, stepPipefail, hn]

/-! ## The last user -/

theorem forgetsStage_stepUser : ForgetsStage none stepUser := by
  intro s line n image hn
  rw [stepUser, stepUser, hn]

/-- Users are only reported at the end. -/
theorem flatten_eq_nil_of_passes {s u : Option (Nat × String)} {nodes : List (Nat × Node)}
    {steps : List (List Note)} (h : lastUser.Passes s nodes steps u) : steps.flatten = [] := by
  refine h.flatten_eq_nil fun s line n u found hstep => ?_
  have hfound : (stepUser s line n).2 = [] := by
    unfold stepUser
    cases n.instruction <;> rfl
  rwa [Except.ok.inj hstep] at hfound

/-- The rule on the last user notes at the end, so only the last stage counts. -/
theorem checksLastStage_lastUser :
    ChecksLastStage fun nodes => some (lastUser.trace nodes) := by
  intro xs ys hys
  obtain ⟨t, u, ht, hu, hv⟩ := forgetsStage_stepUser.trace_append _ xs hys
  obtain ⟨_, hpasses, -⟩ := Checker.traceFrom_eq_ok_iff.mp ht
  refine ⟨u, _, congrArg some hu, congrArg some hv, ?_⟩
  unfold Trace.notes
  rw [List.flatten_append, flatten_eq_nil_of_passes hpasses, List.nil_append]

/-! ## Once in a stage -/

section

variable {isKind : Instruction → Bool} {keyword : String}

theorem stepOnce_of_base {n : Node} {image : Image} (hn : n.base? = some image) (seen : Bool)
    (line : Nat) : stepOnce isKind seen line n = (false, []) := by
  rw [stepOnce, Node.base?_eq_some_iff.mp hn]

/-- The second instruction of the kind in a stage is noted, and all after it. -/
theorem stepOnce_of_not_base {n : Node} (hn : n.base? = none) (seen : Bool) (line : Nat) :
    stepOnce isKind seen line n = if isKind n.instruction then
      (true, if seen then noteAt line else []) else (seen, []) := by
  obtain ⟨instruction, script⟩ := n
  cases instruction with
  | base => cases hn
  | _ => rfl

/-- **The second and each later instruction of the kind in a stage** are reported. -/
theorem exists_reportsExactly_onceInStage (hkind : ∀ i, isKind i = true ↔ i.keyword = keyword)
    (hkeyword : keyword ≠ "FROM") (nodes : List (Nat × Node)) :
    ∃ t, (onceInStage isKind).trace nodes = .ok t ∧ t.ReportsExactly nodes fun past n =>
      n.instruction.keyword = keyword ∧ (Stages.ofNodes past).current.Has keyword := by
  -- what is remembered is whether the stage has had an instruction of the kind
  refine Checker.exists_reportsExactly_ofStep
    (fun past seen => seen = true ↔ (Stages.ofNodes past).current.Has keyword)
    (iff_of_false Bool.false_ne_true (Stage.not_has_of_nil none keyword)) ?_ ?_ nodes
  · intro past seen line n hseen
    rw [Stages.ofNodes_concat]
    cases hn : n.base? with
    | some image =>
      rw [stepOnce_of_base hn, Stages.add_of_base hn]
      exact iff_of_false Bool.false_ne_true (Stage.not_has_of_nil _ keyword)
    | none =>
      rw [stepOnce_of_not_base hn, Stages.add_of_not_base hn, Stage.has_concat_iff, ← hseen,
        ← hkind]
      by_cases hi : isKind n.instruction = true <;> simp [hi]
  · intro past seen line n hseen
    rw [← hseen]
    cases hn : n.base? with
    | some image =>
      -- a base image is of another kind
      rw [stepOnce_of_base hn, Node.base?_eq_some_iff.mp hn]
      exact reportsIf_nil (fun h => hkeyword h.1.symm) line
    | none =>
      rw [stepOnce_of_not_base hn, ← hkind]
      by_cases hi : isKind n.instruction = true
      · rw [if_pos hi]
        cases seen with
        | true => exact reportsIf_singleton ⟨hi, rfl⟩ ⟨line, none, none⟩
        | false => exact reportsIf_nil (fun h => Bool.false_ne_true h.2) line
      · rw [if_neg hi]
        exact reportsIf_nil (fun h => hi h.1) line

end

theorem isHealthcheck_iff (i : Instruction) : isHealthcheck i = true ↔ i.keyword = "HEALTHCHECK" := by
  cases i <;> simp [isHealthcheck, Instruction.keyword]

theorem isCmd_iff (i : Instruction) : isCmd i = true ↔ i.keyword = "CMD" := by
  cases i <;> simp [isCmd, Instruction.keyword]

theorem isEntrypoint_iff (i : Instruction) : isEntrypoint i = true ↔ i.keyword = "ENTRYPOINT" := by
  cases i <;> simp [isEntrypoint, Instruction.keyword]

/-! ## The rules -/

/-- **Stages are checked apart.** The rules on instructions that may occur once, on
commands in a row and on pipes find in each stage what they find in it alone, and the rule
on users finds what it finds in the last one. Of the instructions that may occur once,
those are reported that have another of their kind before them in their stage. -/
theorem stages_checked_apart (options : RuleOptions) :
    (∀ code ∈ ["DL3012", "DL4003", "DL4004", "DL4006", "DL3059"],
      ChecksStagesApart (Catalogue.bundled.run? code options)) ∧
    ChecksLastStage (Catalogue.bundled.run? "DL3002" options) ∧
    ∀ rule ∈ [("DL3012", "HEALTHCHECK"), ("DL4003", "CMD"), ("DL4004", "ENTRYPOINT")],
      ∀ nodes, ∃ t, Catalogue.bundled.run? rule.1 options nodes = some (.ok t) ∧
        t.ReportsExactly nodes fun past n =>
          n.instruction.keyword = rule.2 ∧ (Stages.ofNodes past).current.Has rule.2 := by
  refine ⟨?_, checksLastStage_lastUser, ?_⟩
  · simp only [List.forall_mem_cons, List.not_mem_nil, false_imp_iff, implies_true, and_true]
    exact ⟨(forgetsStage_stepOnce isHealthcheck).checksStagesApart,
      (forgetsStage_stepOnce isCmd).checksStagesApart,
      (forgetsStage_stepOnce isEntrypoint).checksStagesApart,
      forgetsStage_stepPipefail.checksStagesApart,
      forgetsStage_stepRuns.checksStagesApart⟩
  · simp only [List.forall_mem_cons, List.not_mem_nil, false_imp_iff, implies_true, and_true]
    refine ⟨fun nodes => ?_, fun nodes => ?_, fun nodes => ?_⟩
    · obtain ⟨t, ht, hreports⟩ :=
        exists_reportsExactly_onceInStage isHealthcheck_iff (by decide) nodes
      exact ⟨t, congrArg some ht, hreports⟩
    · obtain ⟨t, ht, hreports⟩ := exists_reportsExactly_onceInStage isCmd_iff (by decide) nodes
      exact ⟨t, congrArg some ht, hreports⟩
    · obtain ⟨t, ht, hreports⟩ :=
        exists_reportsExactly_onceInStage isEntrypoint_iff (by decide) nodes
      exact ⟨t, congrArg some ht, hreports⟩

/-- A health check in each of two stages. -/
theorem stages_checked_apart_healthcheck :
    StartsStage [(2, ⟨.base (Image.ofReference "alpine:3.19" none none), none⟩),
      (3, ⟨.healthcheck none, none⟩)] ∧
    ∃ t u v,
      Catalogue.bundled.run? "DL3012" [] [(1, ⟨.healthcheck none, none⟩)] = some (.ok t) ∧
      Catalogue.bundled.run? "DL3012" []
        [(2, ⟨.base (Image.ofReference "alpine:3.19" none none), none⟩),
          (3, ⟨.healthcheck none, none⟩)] = some (.ok u) ∧
      Catalogue.bundled.run? "DL3012" [] [(1, ⟨.healthcheck none, none⟩),
        (2, ⟨.base (Image.ofReference "alpine:3.19" none none), none⟩),
        (3, ⟨.healthcheck none, none⟩)] = some (.ok v) ∧
      v.steps = t.steps ++ u.steps ∧ v.notes = t.notes ++ u.notes := by
  have hys : StartsStage [(2, ⟨.base (Image.ofReference "alpine:3.19" none none), none⟩),
      (3, ⟨.healthcheck none, none⟩)] := ⟨_, _, _, _, rfl, rfl⟩
  exact ⟨hys, (stages_checked_apart []).1 "DL3012" (by decide) _ _ hys⟩

end ContainerLint.Dockerfile
