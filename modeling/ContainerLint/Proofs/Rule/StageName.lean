/-
Names of stages.

A base image may be the name of a stage, and a stage may be given a name. Both are about
the stages before: an image without a version is fine if it is the name of a stage that
has been started already, and the name of a stage is new if none of those has it. So a
stage cannot vouch for itself, and of two stages with the same name the later is at fault.

Both rules remember the names so far, and each asks before it adds the name at hand.
-/
import ContainerLint.Proofs.Rule.Registry

namespace ContainerLint

open ContainerLint.Text

/-! ## Texts in lower case -/

theorem Text.lowerWide_ne_nil (c : Char) : lowerWide c ≠ [] := by
  unfold lowerWide
  split <;> exact List.cons_ne_nil _ _

/-- Lower case loses no letters. -/
theorem Text.lower_ne_empty {s : String} (h : s ≠ "") : lower s ≠ "" := by
  obtain ⟨c, cs, hs⟩ := List.exists_cons_of_ne_nil fun hnil => h (String.toList_eq_nil_iff.mp hnil)
  intro hlower
  rw [← String.toList_eq_nil_iff, lower, String.toList_ofList, hs, lowerFrom] at hlower
  have hfirst := (List.append_eq_nil_iff.mp hlower).1
  split at hfirst
  next => cases hfirst
  next =>
    split at hfirst
    next => cases hfirst
    next => exact lowerWide_ne_nil c hfirst

namespace Dockerfile

/-! ## Rules that remember names -/

/-- **What a rule reports that remembers the names of stages**: it adds the name of each
base image and says something about base images only. -/
theorem exists_reportsExactly_of_addStage
    {step : List String → Nat → Node → List String × List Note}
    {p : List (Nat × Node) → Node → Prop} (hp : ∀ past n, p past n → ∃ image, n.base? = some image)
    (hother : ∀ stages line n, n.base? = none → step stages line n = (stages, []))
    (hbase : ∀ stages line n image, n.base? = some image →
      (step stages line n).1 = addStage stages image)
    (hreports : ∀ past stages line n image, AreStages past stages → n.base? = some image →
      ReportsIf (p past n) line (step stages line n).2)
    (nodes : List (Nat × Node)) :
    ∃ t, (Checker.ofStep [] step fun _ => []).trace nodes = .ok t ∧ t.ReportsExactly nodes p := by
  -- the invariant is that the state holds the names of the stages passed
  refine Checker.exists_reportsExactly_ofStep AreStages areStages_start
    (fun past stages line n h => ?_) (fun past stages line n h => ?_) nodes
  · cases hn : n.base? with
    | some image =>
      rw [hbase stages line n image hn]
      exact areStages_concat h line hn
    | none =>
      rw [hother stages line n hn]
      exact areStages_concat_of_not_base h line hn
  · cases hn : n.base? with
    | some image => exact hreports past stages line n image h hn
    | none =>
      rw [hother stages line n hn]
      refine reportsIf_nil (fun hreported => ?_) line
      obtain ⟨image, himage⟩ := hp past n hreported
      exact nomatch hn.symm.trans himage

/-! ## Base images without a version -/

/-- The node is a base image without a tag and without a digest, and it is neither empty
nor a variable nor the name of a stage so far. -/
def IsUntagged (past : List (Nat × Node)) (n : Node) : Prop :=
  ∃ image, n.base? = some image ∧ lower image.image ≠ "scratch" ∧
    (∀ rest, image.image.toList ≠ '$' :: rest) ∧ image.tag = none ∧ image.digest = none ∧
    ∀ base ∈ basesOf past, ¬ base.IsCalled image.image

theorem Image.isVariable_eq_false_iff {image : Image} :
    image.isVariable = false ↔ ∀ rest, image.image.toList ≠ '$' :: rest := by
  rw [isVariable, startsWith, ← Bool.not_eq_true, List.isPrefixOf_iff_prefix]
  exact ⟨fun h rest hrest => h ⟨rest, hrest.symm⟩, fun h ⟨rest, hrest⟩ => h rest hrest.symm⟩

theorem Image.hasVersion_eq_false_iff {image : Image} :
    image.hasVersion = false ↔ image.tag = none ∧ image.digest = none := by
  rw [hasVersion, Bool.or_eq_false_iff, Option.isSome_eq_false_iff, Option.isSome_eq_false_iff,
    Option.isNone_iff_eq_none, Option.isNone_iff_eq_none]

/-- The names known decide whether an image is untagged. -/
theorem AreStages.isUntagged_iff {past : List (Nat × Node)} {stages : List String}
    (h : AreStages past stages) {n : Node} {image : Image} (hn : n.base? = some image) :
    IsUntagged past n ↔ ¬ (image.isScratch || image.isVariable || image.hasVersion ||
      isStage stages image) = true := by
  rw [Bool.not_eq_true, Bool.or_eq_false_iff, Bool.or_eq_false_iff, Bool.or_eq_false_iff,
    h.isStage_eq_false_iff, Image.isVariable_eq_false_iff, Image.hasVersion_eq_false_iff,
    Image.isScratch, beq_eq_false_iff_ne]
  simp only [IsUntagged, hn, Option.some.injEq, exists_eq_left', and_assoc]

theorem stepTagged_of_base {n : Node} {image : Image} (hn : n.base? = some image)
    (stages : List String) (line : Nat) : stepTagged stages line n = (addStage stages image,
      if image.isScratch || image.isVariable || image.hasVersion || isStage stages image then []
      else noteAt line) := by
  rw [stepTagged, Node.base?_eq_some_iff.mp hn]

theorem stepTagged_of_not_base (stages : List String) (line : Nat) (n : Node)
    (hn : n.base? = none) : stepTagged stages line n = (stages, []) := by
  obtain ⟨instruction, script⟩ := n
  cases instruction with
  | base => cases hn
  | _ => rfl

/-- The rule on tags reports the untagged images. -/
theorem exists_reportsExactly_taggedImage (nodes : List (Nat × Node)) :
    ∃ t, taggedImage.trace nodes = .ok t ∧ t.ReportsExactly nodes IsUntagged := by
  refine exists_reportsExactly_of_addStage (fun past n ⟨image, hn, _⟩ => ⟨image, hn⟩)
    stepTagged_of_not_base (fun stages line n image hn => ?_)
    (fun past stages line n image h hn => ?_) nodes
  · rw [stepTagged_of_base hn]
  · rw [stepTagged_of_base hn, h.isUntagged_iff hn]
    dsimp only
    split
    next hfine => exact reportsIf_nil (fun huntagged => huntagged hfine) line
    next hfine => exact reportsIf_singleton hfine ⟨line, none, none⟩

/-! ## Names that are given twice -/

/-- The node starts a stage with a name that a stage so far has. -/
def RepeatsName (past : List (Nat × Node)) (n : Node) : Prop :=
  ∃ image name, n.base? = some image ∧ image.stage = some name ∧
    ∃ base ∈ basesOf past, base.IsCalled name

/-- A name that a stage so far has is not empty, and an empty one is remembered as none. -/
theorem AreStages.repeatsName_iff {past : List (Nat × Node)} {stages : List String}
    (h : AreStages past stages) {n : Node} {image : Image} (hn : n.base? = some image) :
    RepeatsName past n ↔ (stageOf image).any stages.contains = true := by
  simp only [Option.any_eq_true, List.contains_iff_mem, h _]
  constructor
  · rintro ⟨image', name, himage, hname, base, hbase, hcalled⟩
    obtain rfl : image = image' := Option.some.inj (hn.symm.trans himage)
    have hnonempty : name ≠ "" := by
      rintro rfl
      obtain ⟨stage, -, hstage, hsame⟩ := hcalled
      exact lower_ne_empty hstage hsame
    exact ⟨lower name, stageOf_eq_some_iff.mpr ⟨name, hname, hnonempty, rfl⟩, base, hbase,
      Image.isCalled_iff.mp hcalled⟩
  · rintro ⟨name, hname, base, hbase, hsame⟩
    obtain ⟨stage, hstage, -, rfl⟩ := stageOf_eq_some_iff.mp hname
    exact ⟨image, stage, hn, hstage, base, hbase, Image.isCalled_iff.mpr hsame⟩

/-- A name is noted if it is known already. -/
theorem stepUnique_of_base {n : Node} {image : Image} (hn : n.base? = some image)
    (stages : List String) (line : Nat) :
    ∃ message, stepUnique stages line n = (addStage stages image,
      if (stageOf image).any stages.contains then [⟨line, some message, none⟩] else []) := by
  refine ⟨"Duplicate `FROM` alias `" ++ image.stage.getD "" ++ "`.", ?_⟩
  rw [stepUnique, Node.base?_eq_some_iff.mp hn]
  unfold addStage
  dsimp only
  cases stageOf image <;> rfl

theorem stepUnique_of_not_base (stages : List String) (line : Nat) (n : Node)
    (hn : n.base? = none) : stepUnique stages line n = (stages, []) := by
  obtain ⟨instruction, script⟩ := n
  cases instruction with
  | base => cases hn
  | _ => rfl

/-- The rule on names reports those that repeat one. -/
theorem exists_reportsExactly_uniqueStage (nodes : List (Nat × Node)) :
    ∃ t, uniqueStage.trace nodes = .ok t ∧ t.ReportsExactly nodes RepeatsName := by
  refine exists_reportsExactly_of_addStage (fun past n ⟨image, _, hn, _⟩ => ⟨image, hn⟩)
    stepUnique_of_not_base (fun stages line n image hn => ?_)
    (fun past stages line n image h hn => ?_) nodes
  · obtain ⟨message, hstep⟩ := stepUnique_of_base hn stages line
    rw [hstep]
  · obtain ⟨message, hstep⟩ := stepUnique_of_base hn stages line
    rw [hstep, h.repeatsName_iff hn]
    dsimp only
    split
    next hrepeats => exact reportsIf_singleton hrepeats ⟨line, some message, none⟩
    next hrepeats => exact reportsIf_nil hrepeats line

/-! ## The rules -/

/-- **Names of stages hold from there on.** A base image is reported for its missing version
exactly if it is not the name of a stage before it, and is neither empty nor a variable. A
stage is reported for its name exactly if a stage before it has the same. -/
theorem stageNames_hold_forward (options : RuleOptions) (nodes : List (Nat × Node)) :
    (∃ t, Catalogue.bundled.run? "DL3006" options nodes = some (.ok t) ∧
      t.ReportsExactly nodes IsUntagged) ∧
    ∃ t, Catalogue.bundled.run? "DL3024" options nodes = some (.ok t) ∧
      t.ReportsExactly nodes RepeatsName := by
  obtain ⟨t, ht, htagged⟩ := exists_reportsExactly_taggedImage nodes
  obtain ⟨u, hu, hunique⟩ := exists_reportsExactly_uniqueStage nodes
  exact ⟨⟨t, congrArg some ht, htagged⟩, u, congrArg some hu, hunique⟩

end Dockerfile

end ContainerLint
