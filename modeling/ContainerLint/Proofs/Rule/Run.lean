/-
Runs of rules, node by node.

A rule that goes from node to node knows of the nodes behind it only what it remembers.
What it finds at a node is therefore settled by an invariant between the nodes that it has
passed and what it remembers of them: the invariant holds at the start, each step keeps
it, and with it the step says which nodes are reported.

A rule that forgets at some nodes goes on from there as one that has just been started.
-/
import ContainerLint.Proofs.Rule.Ending

namespace ContainerLint

/-! ## What a run reports -/

/-- The run reports exactly the nodes with a property, which may ask for the nodes before:
at each of these it makes one note, on the node's line, and it makes no other notes. -/
structure Trace.ReportsExactly {Node : Type} (t : Trace) (nodes : List (Nat × Node))
    (p : List (Nat × Node) → Node → Prop) : Prop where
  length : t.steps.length = nodes.length
  final : t.final = []
  reported {past rest : List (Nat × Node)} {line : Nat} {n : Node} :
    nodes = past ++ (line, n) :: rest → p past n →
      ∃ note, t.steps[past.length]? = some [note] ∧ note.line = line
  silent {past rest : List (Nat × Node)} {line : Nat} {n : Node} :
    nodes = past ++ (line, n) :: rest → ¬ p past n → t.steps[past.length]? = some []

/-- Under a condition the notes are one note on the line, and else there are none. -/
def ReportsIf (p : Prop) (line : Nat) (found : List Note) : Prop :=
  (p → ∃ note, found = [note] ∧ note.line = line) ∧ (¬ p → found = [])

theorem reportsIf_singleton {p : Prop} (hp : p) (note : Note) :
    ReportsIf p note.line [note] :=
  ⟨fun _ => ⟨note, rfl, rfl⟩, fun h => absurd hp h⟩

theorem reportsIf_nil {p : Prop} (hp : ¬ p) (line : Nat) : ReportsIf p line [] :=
  ⟨fun h => absurd h hp, fun _ => rfl⟩

namespace Checker

variable {Node State : Type} {c : Checker Node State}

/-! ## From state to state -/

/-- The checker goes over nodes from one state to another, and makes the notes of `steps`
on the way. -/
inductive Passes (c : Checker Node State) :
    State → List (Nat × Node) → List (List Note) → State → Prop
  | nil (s : State) : Passes c s [] [] s
  | cons {s u v : State} {line : Nat} {n : Node} {found : List Note}
      {nodes : List (Nat × Node)} {steps : List (List Note)} :
      c.step s line n = .ok (u, found) → Passes c u nodes steps v →
        Passes c s ((line, n) :: nodes) (found :: steps) v

/-- A trace is a pass over the nodes and what is noted at the end. -/
theorem traceFrom_eq_ok_iff {passed : Nat} {s : State} {nodes : List (Nat × Node)} {t : Trace} :
    c.traceFrom passed s nodes = .ok t ↔ ∃ u, c.Passes s nodes t.steps u ∧ t.final = c.finish u := by
  induction nodes generalizing passed s t with
  | nil =>
    constructor
    · intro h
      rw [← Except.ok.inj h]
      exact ⟨s, .nil s, rfl⟩
    · obtain ⟨steps, final⟩ := t
      rintro ⟨u, hpasses, rfl⟩
      cases hpasses
      rfl
  | cons node nodes ih =>
    obtain ⟨line, n⟩ := node
    -- the count of nodes passed matters for errors only
    rw [traceFrom_cons_eq_ok_iff]
    constructor
    · rintro ⟨u, found, rest, hstep, hrest, rfl⟩
      obtain ⟨v, hpasses, hfinal⟩ := ih.mp hrest
      exact ⟨v, .cons hstep hpasses, hfinal⟩
    · obtain ⟨steps, final⟩ := t
      rintro ⟨v, hpasses, hfinal⟩
      cases hpasses with
      | @cons _ u _ _ _ found _ steps hstep hpasses =>
        exact ⟨u, found, ⟨steps, final⟩, hstep, ih.mpr ⟨v, hpasses, hfinal⟩, rfl⟩

/-- Every node has its notes. -/
theorem Passes.length_eq {s u : State} {nodes : List (Nat × Node)} {steps : List (List Note)}
    (h : c.Passes s nodes steps u) : steps.length = nodes.length := by
  induction h with
  | nil => rfl
  | cons _ _ ih => rw [List.length_cons, List.length_cons, ih]

/-- A pass over two parts is two passes, the second from the state the first left. -/
theorem passes_append_iff {s v : State} {xs ys : List (Nat × Node)} {steps : List (List Note)} :
    c.Passes s (xs ++ ys) steps v ↔ ∃ before after u, steps = before ++ after ∧
      c.Passes s xs before u ∧ c.Passes u ys after v := by
  induction xs generalizing s steps with
  | nil =>
    constructor
    · intro h
      exact ⟨[], steps, s, rfl, .nil s, h⟩
    · rintro ⟨before, after, u, rfl, hxs, hys⟩
      cases hxs
      exact hys
  | cons node xs ih =>
    constructor
    · intro h
      cases h with
      | @cons _ u _ line n found _ steps hstep hrest =>
        obtain ⟨before, after, w, rfl, hxs, hys⟩ := ih.mp hrest
        exact ⟨found :: before, after, w, rfl, .cons hstep hxs, hys⟩
    · rintro ⟨before, after, u, rfl, hxs, hys⟩
      cases hxs with
      | cons hstep hxs => exact .cons hstep (ih.mpr ⟨_, _, u, rfl, hxs, hys⟩)

/-- A checker that finds nothing on its way has only notes at the end. -/
theorem Passes.flatten_eq_nil {s u : State} {nodes : List (Nat × Node)} {steps : List (List Note)}
    (h : c.Passes s nodes steps u)
    (hstep : ∀ s line n u found, c.step s line n = .ok (u, found) → found = []) :
    steps.flatten = [] := by
  induction h with
  | nil => rfl
  | cons hfound _ ih =>
    rw [List.flatten_cons, ih, hstep _ _ _ _ _ hfound]
    rfl

/-! ## Invariants -/

/-- The nodes that have been passed describe what the checker remembers. -/
structure Describes (c : Checker Node State) (Inv : List (Nat × Node) → State → Prop) : Prop where
  start : Inv [] c.start
  step {past : List (Nat × Node)} {s u : State} {line : Nat} {n : Node} {found : List Note} :
    Inv past s → c.step s line n = .ok (u, found) → Inv (past ++ [(line, n)]) u

variable {Inv : List (Nat × Node) → State → Prop}

/-- What each step keeps, a run keeps. -/
theorem Describes.passes (h : c.Describes Inv) {past nodes : List (Nat × Node)} {s u : State}
    {steps : List (List Note)} (hs : Inv past s) (hpasses : c.Passes s nodes steps u) :
    Inv (past ++ nodes) u := by
  induction hpasses generalizing past with
  | nil => rwa [List.append_nil]
  | cons hstep _ ih =>
    have hrest := ih (h.step hs hstep)
    rwa [List.append_assoc] at hrest

/-- **At each node of a run** the checker is in a state that the nodes before describe,
and notes what its step from there finds. -/
theorem Describes.exists_step (h : c.Describes Inv) {nodes past rest : List (Nat × Node)}
    {line : Nat} {n : Node} {t : Trace} (ht : c.trace nodes = .ok t)
    (hnodes : nodes = past ++ (line, n) :: rest) :
    ∃ s u found, Inv past s ∧ c.step s line n = .ok (u, found) ∧
      t.steps[past.length]? = some found := by
  subst hnodes
  obtain ⟨v, hpasses, -⟩ := traceFrom_eq_ok_iff.mp ht
  obtain ⟨before, after, s, hsteps, hpast, hpasses⟩ := passes_append_iff.mp hpasses
  -- the pass is cut at the node, where the invariant holds of the state
  have hs : Inv past s := h.passes h.start hpast
  cases hpasses with
  | @cons _ u _ _ _ found _ steps hstep _ =>
    refine ⟨s, u, found, hs, hstep, ?_⟩
    rw [hsteps, ← hpast.length_eq, List.getElem?_append_right (Nat.le_refl _), Nat.sub_self]
    rfl

/-- A checker whose steps can all be taken in the states that nodes describe comes to its
end. -/
theorem exists_passes (hstep : ∀ past s line n, Inv past s →
      ∃ u found, c.step s line n = .ok (u, found) ∧ Inv (past ++ [(line, n)]) u)
    (nodes : List (Nat × Node)) {past : List (Nat × Node)} {s : State} (hs : Inv past s) :
    ∃ steps u, c.Passes s nodes steps u := by
  induction nodes generalizing past s with
  | nil => exact ⟨[], s, .nil s⟩
  | cons node nodes ih =>
    obtain ⟨line, n⟩ := node
    obtain ⟨u, found, hu, hnext⟩ := hstep past s line n hs
    obtain ⟨steps, v, hpasses⟩ := ih hnext
    exact ⟨found :: steps, v, .cons hu hpasses⟩

/-- **What a run reports** is what each step reports in the states that the nodes before
describe. -/
theorem exists_reportsExactly (Inv : List (Nat × Node) → State → Prop)
    {p : List (Nat × Node) → Node → Prop} (hstart : Inv [] c.start)
    (hfinish : ∀ s, c.finish s = [])
    (hstep : ∀ past s line n, Inv past s → ∃ u found, c.step s line n = .ok (u, found) ∧
      Inv (past ++ [(line, n)]) u ∧ ReportsIf (p past n) line found)
    (nodes : List (Nat × Node)) : ∃ t, c.trace nodes = .ok t ∧ t.ReportsExactly nodes p := by
  -- a step is a function, so what one result of it satisfies, each does
  have hresult : ∀ {past s u line n found}, Inv past s → c.step s line n = .ok (u, found) →
      Inv (past ++ [(line, n)]) u ∧ ReportsIf (p past n) line found := by
    intro past s u line n found hs hu
    obtain ⟨u', found', hu', h⟩ := hstep past s line n hs
    rw [hu, Except.ok.injEq, Prod.mk.injEq] at hu'
    rwa [hu'.1, hu'.2]
  have hdescribes : c.Describes Inv := ⟨hstart, fun hs hu => (hresult hs hu).1⟩
  have hcan : ∀ past s line n, Inv past s →
      ∃ u found, c.step s line n = .ok (u, found) ∧ Inv (past ++ [(line, n)]) u := by
    intro past s line n hs
    obtain ⟨u, found, hu, hnext, -⟩ := hstep past s line n hs
    exact ⟨u, found, hu, hnext⟩
  obtain ⟨steps, v, hpasses⟩ := exists_passes hcan nodes hstart
  have ht : c.trace nodes = .ok ⟨steps, c.finish v⟩ :=
    traceFrom_eq_ok_iff.mpr ⟨v, hpasses, rfl⟩
  refine ⟨_, ht, hpasses.length_eq, hfinish v, fun hnodes hp => ?_, fun hnodes hp => ?_⟩
  · obtain ⟨s, u, found, hs, hu, hfound⟩ := hdescribes.exists_step ht hnodes
    obtain ⟨note, rfl, hline⟩ := (hresult hs hu).2.1 hp
    exact ⟨note, hfound, hline⟩
  · obtain ⟨s, u, found, hs, hu, hfound⟩ := hdescribes.exists_step ht hnodes
    rwa [(hresult hs hu).2.2 hp] at hfound

/-- The same for a checker that never stops. -/
theorem exists_reportsExactly_ofStep (Inv : List (Nat × Node) → State → Prop)
    {start : State} {step : State → Nat → Node → State × List Note}
    {p : List (Nat × Node) → Node → Prop} (hstart : Inv [] start)
    (hstep : ∀ past s line n, Inv past s → Inv (past ++ [(line, n)]) (step s line n).1)
    (hreports : ∀ past s line n, Inv past s → ReportsIf (p past n) line (step s line n).2)
    (nodes : List (Nat × Node)) :
    ∃ t, (ofStep start step fun _ => []).trace nodes = .ok t ∧ t.ReportsExactly nodes p :=
  exists_reportsExactly Inv hstart (fun _ => rfl) (fun past s line n hs =>
    ⟨_, _, rfl, hstep past s line n hs, hreports past s line n hs⟩) nodes

/-- **A checker without memory** reports the nodes that its condition does not hold of. -/
theorem exists_reportsExactly_ofCondition (holds : Node → Bool) (nodes : List (Nat × Node)) :
    ∃ t, (ofCondition holds).trace nodes = .ok t ∧
      t.ReportsExactly nodes fun _ n => holds n = false := by
  refine exists_reportsExactly_ofStep (fun _ _ => True) trivial (fun _ _ _ _ _ => trivial)
    (fun past s line n _ => ?_) nodes
  cases hn : holds n with
  | true => exact reportsIf_nil nofun line
  | false => exact reportsIf_singleton rfl ⟨line, none, none⟩

/-- A checker that remembers nothing notes at each node what it would note there alone. -/
theorem trace_ofStep_unit (step : Unit → Nat → Node → Unit × List Note)
    (nodes : List (Nat × Node)) : (ofStep () step fun _ => []).trace nodes =
      .ok ⟨nodes.map fun e => (step () e.1 e.2).2, []⟩ := by
  have hpasses : (ofStep () step fun _ => []).Passes () nodes
      (nodes.map fun e => (step () e.1 e.2).2) () := by
    induction nodes with
    | nil => exact .nil ()
    | cons e nodes ih => exact .cons rfl ih
  exact traceFrom_eq_ok_iff.mpr ⟨(), hpasses, rfl⟩

/-! ## Forgetting -/

/-- At some nodes, what the checker remembers makes no difference. -/
def ForgetsAt (c : Checker Node State) (p : Node → Prop) : Prop :=
  ∀ s line n, p n → c.step s line n = c.step c.start line n

/-- **A run over nodes that start with one at which the checker forgets** goes on as if it
started there. -/
theorem ForgetsAt.trace_append {p : Node → Prop} (h : c.ForgetsAt p) {xs ys : List (Nat × Node)}
    {line : Nat} {n : Node} {t u : Trace} (hn : p n) (hxs : c.trace xs = .ok t)
    (hys : c.trace ((line, n) :: ys) = .ok u) :
    c.trace (xs ++ (line, n) :: ys) = .ok ⟨t.steps ++ u.steps, u.final⟩ := by
  obtain ⟨s, hpassed, -⟩ := traceFrom_eq_ok_iff.mp hxs
  obtain ⟨v, hpasses, hfinal⟩ := traceFrom_eq_ok_iff.mp hys
  have hrest : c.Passes s ((line, n) :: ys) u.steps v := by
    generalize u.steps = steps at hpasses
    cases hpasses with
    | cons hstep hpasses => exact .cons ((h s line n hn).trans hstep) hpasses
  exact traceFrom_eq_ok_iff.mpr ⟨v, passes_append_iff.mpr ⟨_, _, s, rfl, hpassed, hrest⟩, hfinal⟩

end Checker

/-! ## Rules by their codes -/

/-- The run of the rule of a code over the nodes of a build file, if the rule is of the
kind that goes from node to node. -/
def Catalogue.run? (c : Catalogue) (code : String) (options : RuleOptions)
    (nodes : List (Nat × Dockerfile.Node)) : Option (Except Stop Trace) :=
  (c.get? code).bind fun r =>
    match r.check with
    | .nodes run => some (run options nodes)
    | _ => none

/-- What the rule of a code says of a chart, if the rule is of the kind that sees a chart as a
whole. -/
def Catalogue.inspect? (c : Catalogue) (code : String) (options : RuleOptions)
    (view : Chart.View) : Option (Except RuleError (List Failure)) :=
  (c.get? code).bind fun r =>
    match r.check with
    | .chart check => some (check r.toRuleInfo options view)
    | _ => none

namespace Chart

/-- What a check finds that looks at one thing after the other. -/
theorem flatMap_findIf {α : Type} (condition : α → Bool) (finding : α → Finding) (xs : List α) :
    (xs.flatMap fun x => findIf (condition x) (finding x)) = (xs.filter condition).map finding := by
  induction xs with
  | nil => rfl
  | cons x xs ih =>
    rw [List.flatMap_cons, ih, List.filter_cons, findIf]
    split <;> rfl

/-- A failure is there if the finding is. -/
theorem mem_failuresOf_iff {info : RuleInfo} {x : Finding} {xs : List Finding} :
    info.failureAt x.message x.file x.line ∈ failuresOf info xs ↔ x ∈ xs := by
  refine List.mem_map_of_injective (f := fun x : Finding => info.failureAt x.message x.file x.line) ?_
  rintro ⟨message, file, line⟩ ⟨message', file', line'⟩ hsame
  obtain rfl : message = message' := congrArg Failure.message hsame
  obtain rfl : file = file' := congrArg Failure.file hsame
  obtain rfl : line = line' := Int.ofNat.inj (congrArg Failure.line hsame)
  rfl

end Chart

end ContainerLint
