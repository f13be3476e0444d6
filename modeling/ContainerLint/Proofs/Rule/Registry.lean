/-
Trusted registries.

The rule on registries takes the names of those that are trusted from an option. The names
are a list, and one name alone may stand for a list of one. Base images are looked at
unless they are empty, given by a variable or a stage so far, and one is reported if its
registry is not among the names.

A list is searched for the registry, as it should be. A text is searched for it as well,
but as a part of the text. So with one name alone every registry is trusted whose name is
a part of it, and the rule is silent where it should report.
-/
import ContainerLint.Proofs.Rule.Stage
import ContainerLint.Proofs.Text.Stretch

namespace ContainerLint

open ContainerLint.Text

namespace Dockerfile

/-- The option gives the names of trusted registries: as a list, or as one name alone. -/
inductive Trusts : Value → List String → Prop
  | list {names : List String} : names ≠ [] → Trusts (.list (names.map .text)) names
  | single {name : String} : name ≠ "" → Trusts (.text name) [name]

/-- An option that trusts something counts as given. -/
theorem Trusts.isTrue {v : Value} {names : List String} (h : Trusts v names) :
    v.isTrue = true := by
  cases h with
  | list hne =>
    change (!(names.map Value.text).isEmpty) = true
    rw [List.isEmpty_map]
    simpa using hne
  | @single name hne =>
    change (!name.isEmpty) = true
    simpa using hne

/-- **What a registry is searched for in**: it has to be an item of a list, but a part of a
text is enough. -/
theorem Trusts.exists_isTrusted {v : Value} {names : List String} (h : Trusts v names)
    (registry : String) : ∃ b, isTrusted registry v = .ok b ∧
      (b = true ↔ registry ∈ names ∨ ∃ text, v = .text text ∧ registry.toList <:+: text.toList) := by
  cases h with
  | list hne =>
    have hsame : Value.same (.text registry) ∘ Value.text = fun name => registry == name := rfl
    refine ⟨_, rfl, ?_⟩
    rw [List.any_map, hsame, List.any_beq, List.contains_iff_mem]
    simp
  | @single name hne =>
    refine ⟨_, rfl, occursIn_iff.trans ?_⟩
    simp only [List.mem_singleton, Value.text.injEq, exists_eq_left']
    refine ⟨.inr, ?_⟩
    rintro (rfl | hpart)
    · exact List.infix_rfl
    · exact hpart

/-! ## Stages so far -/

/-- The image is looked at, given the nodes before: it is neither empty nor a variable nor
the name of a stage so far. -/
def IsForeign (past : List (Nat × Node)) (image : Image) : Prop :=
  image.isScratch = false ∧ image.isVariable = false ∧
    ∀ base ∈ basesOf past, ¬ base.IsCalled image.image

/-- The names that are remembered are those of the stages so far. -/
def AreStages (past : List (Nat × Node)) (stages : List String) : Prop :=
  ∀ name, name ∈ stages ↔ ∃ base ∈ basesOf past, stageOf base = some name

/-- A stage is known by the name it is given. -/
theorem mem_addStage {stages : List String} {image : Image} {name : String} :
    name ∈ addStage stages image ↔ name ∈ stages ∨ stageOf image = some name := by
  unfold addStage
  cases stageOf image with
  | none => simp
  | some s =>
    dsimp only
    split
    next hmem =>
      rw [List.contains_iff_mem] at hmem
      refine ⟨.inl, ?_⟩
      rintro (h | h)
      · exact h
      · exact Option.some.inj h ▸ hmem
    next => rw [List.mem_append, List.mem_singleton, Option.some.injEq, eq_comm]

/-- An image is no stage if no earlier base is called so. -/
theorem AreStages.isStage_eq_false_iff {past : List (Nat × Node)} {stages : List String}
    (h : AreStages past stages) (image : Image) : isStage stages image = false ↔
      ∀ base ∈ basesOf past, ¬ base.IsCalled image.image := by
  rw [isStage, ← Bool.not_eq_true, List.contains_iff_mem, h]
  simp only [not_exists, not_and, Image.isCalled_iff]

theorem AreStages.isForeign_iff {past : List (Nat × Node)} {stages : List String}
    (h : AreStages past stages) (image : Image) : IsForeign past image ↔
      (image.isScratch || image.isVariable || isStage stages image) = false := by
  rw [Bool.or_eq_false_iff, Bool.or_eq_false_iff, h.isStage_eq_false_iff, and_assoc, IsForeign]

/-- The names known stay those of the stages so far. -/
theorem areStages_concat {past : List (Nat × Node)} {stages : List String}
    (h : AreStages past stages) (line : Nat) {n : Node} {image : Image}
    (hn : n.base? = some image) : AreStages (past ++ [(line, n)]) (addStage stages image) := by
  intro name
  rw [mem_addStage, h, basesOf_concat, hn]
  simp only [Option.toList_some, List.mem_append, List.mem_singleton, or_and_right, exists_or,
    exists_eq_left]

theorem areStages_concat_of_not_base {past : List (Nat × Node)} {stages : List String}
    (h : AreStages past stages) (line : Nat) {n : Node} (hn : n.base? = none) :
    AreStages (past ++ [(line, n)]) stages := by
  intro name
  rw [h, basesOf_concat, hn, Option.toList_none, List.append_nil]

theorem areStages_start : AreStages [] [] :=
  fun _ => iff_of_false List.not_mem_nil nofun

/-! ## The rule -/

/-- The node is a base image that is looked at, and its registry is none of the names. -/
def IsUntrusted (names : List String) (past : List (Nat × Node)) (n : Node) : Prop :=
  ∃ image, n.base? = some image ∧ IsForeign past image ∧ registryOrDefault image ∉ names

/-- The registry of the node is a part of an option that is one name alone. -/
def IsPartOfOption (v : Value) (n : Node) : Prop :=
  ∃ image text, n.base? = some image ∧ v = .text text ∧
    (registryOrDefault image).toList <:+: text.toList

/-- **One step of the rule.** -/
theorem Trusts.exists_stepTrusted {v : Value} {names : List String} (hv : Trusts v names)
    {past : List (Nat × Node)} {stages : List String} (h : AreStages past stages) (line : Nat)
    (n : Node) : ∃ stages' found, stepTrusted v stages line n = .ok (stages', found) ∧
      AreStages (past ++ [(line, n)]) stages' ∧
      ReportsIf (IsUntrusted names past n ∧ ¬ IsPartOfOption v n) line found := by
  obtain ⟨instruction, script⟩ := n
  cases instruction with
  | base image =>
    have hn : (⟨.base image, script⟩ : Node).base? = some image := rfl
    obtain ⟨b, hb, htrusted⟩ := hv.exists_isTrusted (registryOrDefault image)
    -- the option's own test decides, which for one text is weaker than to be listed
    have hreport : IsUntrusted names past ⟨.base image, script⟩ ∧
        ¬ IsPartOfOption v ⟨.base image, script⟩ ↔ IsForeign past image ∧ b = false := by
      rw [← Bool.not_eq_true, htrusted, not_or]
      simp only [IsUntrusted, IsPartOfOption, hn, Option.some.injEq, exists_eq_left', and_assoc,
        exists_and_left]
    rw [hreport, h.isForeign_iff]
    unfold stepTrusted
    dsimp only
    rw [hv.isTrue, hb]
    by_cases hskip : (image.isScratch || image.isVariable || isStage stages image) = true
    · rw [if_pos hskip, hskip]
      exact ⟨_, [], rfl, areStages_concat h line hn, reportsIf_nil (fun h => nomatch h.1) line⟩
    · rw [if_neg hskip]
      refine ⟨_, _, rfl, areStages_concat h line hn, ?_⟩
      rw [Bool.not_eq_true] at hskip
      cases b with
      | true => exact reportsIf_nil (fun h => nomatch h.2) line
      | false => exact reportsIf_singleton ⟨hskip, rfl⟩ (Note.mk line _ none)
  | _ =>
    refine ⟨stages, [], rfl, areStages_concat_of_not_base h line rfl, reportsIf_nil ?_ line⟩
    rintro ⟨⟨image, hn, -⟩, -⟩
    cases hn

/-- **Base images from other registries.** If the option is a list of names, the base
images that are reported are exactly those that are looked at and whose registry is not on
the list. If it is one name alone, those are left out whose registry is a part of it. -/
theorem untrusted_registries_reported {options : RuleOptions} {v : Value} {names : List String}
    (hoption : Value.find? (.text "trusted") options = some v) (hv : Trusts v names)
    (nodes : List (Nat × Node)) :
    ∃ t, Catalogue.bundled.run? "DL3026" options nodes = some (.ok t) ∧
      t.ReportsExactly nodes fun past n => IsUntrusted names past n ∧ ¬ IsPartOfOption v n := by
  have hstep : (trustedRegistry options).step = stepTrusted v := by
    unfold trustedRegistry
    rw [hoption]
    rfl
  obtain ⟨t, ht, hreports⟩ := Checker.exists_reportsExactly (c := trustedRegistry options)
    AreStages (fun name => iff_of_false List.not_mem_nil nofun) (fun _ => rfl)
    (fun past stages line n h => hstep ▸ hv.exists_stepTrusted h line n) nodes
  exact ⟨t, congrArg some ht, hreports⟩

/-- Two names as a list. -/
def twoRegistries : Value := .list [.text "docker.io", .text "ghcr.io"]

/-- A base image from a third registry, and a stage that is based on the first. -/
def foreignNodes : List (Nat × Node) := [
  (1, ⟨.base (Image.ofReference "quay.io/app:1" (some "Build") none), none⟩),
  (2, ⟨.base (Image.ofReference "build" none none), none⟩)]

theorem untrusted_registries_reported_list :
    Value.find? (.text "trusted") [(.text "trusted", twoRegistries)] = some twoRegistries ∧
    Trusts twoRegistries ["docker.io", "ghcr.io"] ∧
    ∃ t, Catalogue.bundled.run? "DL3026" [(.text "trusted", twoRegistries)] foreignNodes =
        some (.ok t) ∧
      t.ReportsExactly foreignNodes fun past n =>
        IsUntrusted ["docker.io", "ghcr.io"] past n ∧ ¬ IsPartOfOption twoRegistries n := by
  have hv : Trusts twoRegistries ["docker.io", "ghcr.io"] :=
    Trusts.list (List.cons_ne_nil "docker.io" ["ghcr.io"])
  exact ⟨rfl, hv, untrusted_registries_reported rfl hv foreignNodes⟩

/-- The registry `r.io` is not the one that is trusted, but it is a part of its name, and
the base image is not reported. -/
theorem part_of_name_trusted :
    Trusts (.text "docker.io") ["docker.io"] ∧
      IsUntrusted ["docker.io"] []
        ⟨.base (Image.ofReference "r.io/app:1" none none), none⟩ ∧
      Catalogue.bundled.run? "DL3026" [(.text "trusted", .text "docker.io")]
        [(1, ⟨.base (Image.ofReference "r.io/app:1" none none), none⟩)] =
          some (.ok ⟨[[]], []⟩) := by
  refine ⟨.single (by decide), ⟨_, rfl, ⟨rfl, rfl, nofun⟩, by decide⟩, rfl⟩

end Dockerfile

end ContainerLint
