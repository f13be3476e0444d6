/-
Copies between stages.

Two rules look at what files are copied from. One knows the names of all stages so far,
where the name of a stage without one is its number, and reports a copy from a stage that
it does not know. The other knows the number and the name of the current stage, and
reports a copy from it. Each rule has its own way to remember stages, but both are
described by the base images so far. Hence the current stage is known to the first rule
whenever the second one recognises it: its name is in the list, and its number is below
the number of stages even where the list has a name in its place.
-/
import ContainerLint.Proofs.Rule.Stage
import ContainerLint.Proofs.Text.Numeral

namespace ContainerLint.Dockerfile

open ContainerLint.Text

/-- What the node copies from, if it says so. -/
def Node.origin? (n : Node) : Option String :=
  match n.instruction with
  | .copy _ _ flags => flags.origin
  | _ => none

/-- The node copies from the stage that it is in, which it names by its number or by its
name. -/
def CopiesFromCurrent (past : List (Nat × Node)) (n : Node) : Prop :=
  ∃ origin older image, n.origin? = some origin ∧ basesOf past = older ++ [image] ∧
    (lower origin = toString older.length ∨ image.IsCalled origin)

/-! ## The current stage -/

theorem stepCopyFromSelf_of_base {n : Node} {image : Image} (hn : n.base? = some image)
    (current : CurrentStage) (line : Nat) : stepCopyFromSelf current line n =
      (⟨current.count + 1, toString current.count :: (stageOf image).toList⟩, []) := by
  rw [stepCopyFromSelf, Node.base?_eq_some_iff.mp hn]

/-- Only a copy from a name of the current stage is reported. -/
theorem stepCopyFromSelf_of_not_base {n : Node} (hn : n.base? = none) (current : CurrentStage)
    (line : Nat) : stepCopyFromSelf current line n = (current,
      if n.origin?.any (fun origin => current.names.contains (lower origin)) then noteAt line
      else []) := by
  obtain ⟨instruction, script⟩ := n
  cases instruction with
  | base => cases hn
  | copy sources destination flags =>
    obtain ⟨origin, chown, chmod, link⟩ := flags
    cases origin <;> rfl
  | _ => rfl

/-- What is remembered of the current stage, by the base images so far. -/
structure IsCurrent (past : List (Nat × Node)) (current : CurrentStage) : Prop where
  count : current.count = (basesOf past).length
  names : ∀ name, name ∈ current.names ↔ ∃ older image, basesOf past = older ++ [image] ∧
    (name = toString older.length ∨ stageOf image = some name)

theorem isCurrent_start : IsCurrent [] ⟨0, []⟩ where
  count := rfl
  names name := by
    refine iff_of_false List.not_mem_nil ?_
    rintro ⟨older, image, hbases, -⟩
    exact absurd hbases.symm (List.append_ne_nil_of_right_ne_nil older (List.cons_ne_nil _ _))

/-- The state goes on to know the current stage. -/
theorem IsCurrent.step {past : List (Nat × Node)} {current : CurrentStage}
    (h : IsCurrent past current) (line : Nat) (n : Node) :
    IsCurrent (past ++ [(line, n)]) (stepCopyFromSelf current line n).1 := by
  cases hn : n.base? with
  | none =>
    rw [stepCopyFromSelf_of_not_base hn]
    refine ⟨?_, ?_⟩
    · rw [basesOf_concat, hn, Option.toList_none, List.append_nil]
      exact h.count
    · rw [basesOf_concat, hn, Option.toList_none, List.append_nil]
      exact h.names
  | some image =>
    rw [stepCopyFromSelf_of_base hn]
    refine ⟨?_, fun name => ?_⟩
    · rw [basesOf_concat, hn, Option.toList_some, List.length_append, ← h.count]
      rfl
    · rw [basesOf_concat, hn, Option.toList_some, h.count, List.mem_cons, Option.mem_toList]
      constructor
      · intro hname
        exact ⟨_, image, rfl, hname⟩
      · rintro ⟨older, image', hbases, hname⟩
        -- the last base is the one just added, so its names are the current ones
        obtain ⟨rfl, himage⟩ := List.append_inj' hbases rfl
        cases himage
        exact hname

/-- **A copy from the current stage** is reported, and nothing else. -/
theorem exists_reportsExactly_copyFromOther (nodes : List (Nat × Node)) :
    ∃ t, copyFromOther.trace nodes = .ok t ∧ t.ReportsExactly nodes CopiesFromCurrent := by
  refine Checker.exists_reportsExactly_ofStep IsCurrent isCurrent_start
    (fun past current line n h => h.step line n) (fun past current line n h => ?_) nodes
  have hcopies : CopiesFromCurrent past n ↔
      n.origin?.any (fun origin => current.names.contains (lower origin)) = true := by
    simp only [Option.any_eq_true, List.contains_iff_mem, h.names, CopiesFromCurrent,
      Image.isCalled_iff, exists_and_left]
  rw [hcopies]
  cases hn : n.base? with
  | some image =>
    -- a base copies nothing
    have horigin : n.origin? = none := by
      rw [Node.origin?, Node.base?_eq_some_iff.mp hn]
    rw [stepCopyFromSelf_of_base hn, horigin]
    exact reportsIf_nil nofun line
  | none =>
    rw [stepCopyFromSelf_of_not_base hn]
    dsimp only
    split
    next hself => exact reportsIf_singleton hself ⟨line, none, none⟩
    next hself => exact reportsIf_nil hself line

/-! ## The stages so far -/

theorem stepCopyFrom_of_base {n : Node} {image : Image} (hn : n.base? = some image)
    (stages : List String) (line : Nat) :
    stepCopyFrom stages line n = .ok (stages ++ [stageName image stages.length], []) := by
  rw [stepCopyFrom, Node.base?_eq_some_iff.mp hn]

/-- Only a new stage changes what the rule knows. -/
theorem eq_of_stepCopyFrom {n : Node} (hn : n.base? = none) {stages stages' : List String}
    {line : Nat} {found : List Note} (h : stepCopyFrom stages line n = .ok (stages', found)) :
    stages' = stages := by
  obtain ⟨instruction, script⟩ := n
  cases instruction with
  | base => cases hn
  | copy sources destination flags =>
    unfold stepCopyFrom at h
    dsimp only at h
    cases horigin : flags.origin with
    | none =>
      rw [horigin] at h
      exact (Prod.mk.inj (Except.ok.inj h)).1.symm
    | some origin =>
      rw [horigin] at h
      obtain ⟨index, -, h⟩ := bind_eq_ok_iff.mp h
      exact (Prod.mk.inj (Except.ok.inj h)).1.symm
  | _ => exact (Prod.mk.inj (Except.ok.inj h)).1.symm

/-- A number that is written out is read back. -/
theorem eq_of_indexOf?_toString {k : Nat} {index : Option Nat}
    (h : indexOf? (toString k) = .ok index) : index = some k := by
  have hdigits : !(toString k).toList.isEmpty && (toString k).toList.all isDigit := by
    rw [Nat.toString_eq_ofList_toDigits, String.toList_ofList, Bool.and_eq_true, List.all_eq_true]
    refine ⟨by simp [Nat.toDigits_ne_nil], fun c hc => ?_⟩
    rw [isDigit, (digits_toDigits k).1 c hc, Bool.true_or]
  unfold indexOf? at h
  dsimp only at h
  rw [if_pos hdigits] at h
  cases hread : readDecimal (toString k).toList with
  | error e =>
    rw [hread] at h
    cases h
  | ok m =>
    rw [hread] at h
    rw [← Except.ok.inj h, eq_of_readDecimal_toString hread]

/-- A copy from a stage of the list, or from one by its number, is not reported. -/
theorem stepCopyFrom_of_known {n : Node} {stages stages' : List String} {line : Nat}
    {origin : String} {found : List Note} (hn : n.origin? = some origin)
    (hknown : lower origin ∈ stages ∨ ∃ k < stages.length, lower origin = toString k)
    (h : stepCopyFrom stages line n = .ok (stages', found)) : found = [] := by
  obtain ⟨instruction, script⟩ := n
  cases instruction with
  | copy sources destination flags =>
    have horigin : flags.origin = some origin := hn
    unfold stepCopyFrom at h
    dsimp only at h
    rw [horigin] at h
    obtain ⟨index, hindex, h⟩ := bind_eq_ok_iff.mp h
    rw [← (Prod.mk.inj (Except.ok.inj h)).2]
    refine if_pos ?_
    rw [Bool.or_eq_true, Bool.or_eq_true, List.contains_iff_mem]
    refine .inl (hknown.imp_right ?_)
    rintro ⟨k, hk, hsource⟩
    rw [hsource] at hindex
    rw [eq_of_indexOf?_toString hindex]
    exact decide_eq_true hk
  | _ => cases hn

/-- The list has a name for each base image so far. -/
theorem describes_copyFromKnown : copyFromKnown.Describes fun past stages =>
    stages = (basesOf past).mapIdx fun i image => stageName image i where
  start := rfl
  step {past stages stages' line n found} hstages hstep := by
    cases hn : n.base? with
    | some image =>
      rw [basesOf_concat, hn, Option.toList_some, List.mapIdx_concat, ← hstages]
      have hstep' := (stepCopyFrom_of_base hn stages line).symm.trans hstep
      rw [← (Prod.mk.inj (Except.ok.inj hstep')).1, hstages, List.length_mapIdx]
    | none =>
      rw [basesOf_concat, hn, Option.toList_none, List.append_nil, ← hstages]
      exact eq_of_stepCopyFrom hn hstep

/-- The current stage is known. -/
theorem mem_or_lt_of_copiesFromCurrent {past : List (Nat × Node)} {older : List Image}
    {image : Image} {origin : String} (hbases : basesOf past = older ++ [image])
    (hnames : lower origin = toString older.length ∨ image.IsCalled origin) :
    lower origin ∈ (basesOf past).mapIdx (fun i image => stageName image i) ∨
      ∃ k < ((basesOf past).mapIdx fun i image => stageName image i).length,
        lower origin = toString k := by
  rw [hbases]
  rcases hnames with hnumber | hname
  · refine .inr ⟨older.length, ?_, hnumber⟩
    rw [List.length_mapIdx, List.length_append]
    exact Nat.lt_succ_self _
  · refine .inl ?_
    rw [List.mapIdx_concat, stageName, Image.isCalled_iff.mp hname]
    exact List.mem_append_right _ List.mem_cons_self

/-! ## The two rules together -/

/-- **No copy is reported by both rules.** The one reports exactly the copies from the
current stage, by its number or its name, and where it reports one, the other, if it can
be carried through at all, knows the stage. -/
theorem copyFrom_reported_once (options options' : RuleOptions) (nodes : List (Nat × Node))
    {t : Trace} (ht : Catalogue.bundled.run? "DL3022" options nodes = some (.ok t)) :
    ∃ u, Catalogue.bundled.run? "DL3023" options' nodes = some (.ok u) ∧
      u.ReportsExactly nodes CopiesFromCurrent ∧
      ∀ i < nodes.length, t.steps[i]? = some [] ∨ u.steps[i]? = some [] := by
  have ht : copyFromKnown.trace nodes = .ok t := Option.some.inj ht
  obtain ⟨u, hu, hreports⟩ := exists_reportsExactly_copyFromOther nodes
  refine ⟨u, congrArg some hu, hreports, fun i hi => ?_⟩
  have hnodes : nodes = nodes.take i ++ nodes[i] :: nodes.drop (i + 1) := by
    rw [← List.drop_eq_getElem_cons hi, List.take_append_drop]
  have hlength : (nodes.take i).length = i := List.length_take_of_le (Nat.le_of_lt hi)
  -- a copy from the current stage is from a known one, so the first rule is silent on it
  by_cases hcopies : CopiesFromCurrent (nodes.take i) nodes[i].2
  · obtain ⟨stages, stages', found, hstages, hstep, hfound⟩ :=
      describes_copyFromKnown.exists_step ht hnodes
    obtain ⟨origin, older, image, horigin, hbases, hnames⟩ := hcopies
    have hknown := mem_or_lt_of_copiesFromCurrent hbases hnames
    rw [← hstages] at hknown
    rw [hlength, stepCopyFrom_of_known horigin hknown hstep] at hfound
    exact .inl hfound
  · have hsilent := hreports.silent hnodes hcopies
    rw [hlength] at hsilent
    exact .inr hsilent

/-- A stage that has a name, and copies from it by its name and by its number. -/
def selfCopyingNodes : List (Nat × Node) := [
  (1, ⟨.base (Image.ofReference "alpine:3.19" (some "Build") none), none⟩),
  (2, ⟨.copy ["a"] "b" { origin := some "BUILD" }, none⟩),
  (3, ⟨.onBuild (.copy ["a"] "b" { origin := some "0" }), none⟩),
  (3, ⟨.copy ["a"] "b" { origin := some "0" }, none⟩)]

theorem copyFrom_reported_once_ownStage :
    Catalogue.bundled.run? "DL3022" [] selfCopyingNodes = some (.ok ⟨[[], [], [], []], []⟩) ∧
    ∃ u, Catalogue.bundled.run? "DL3023" [] selfCopyingNodes = some (.ok u) ∧
      u.ReportsExactly selfCopyingNodes CopiesFromCurrent ∧
      ∀ i < selfCopyingNodes.length, [[], [], [], []][i]? = some ([] : List Note) ∨
        u.steps[i]? = some [] := by
  have ht : Catalogue.bundled.run? "DL3022" [] selfCopyingNodes =
      some (.ok ⟨[[], [], [], []], []⟩) := rfl
  exact ⟨ht, copyFrom_reported_once [] [] selfCopyingNodes ht⟩

end ContainerLint.Dockerfile
