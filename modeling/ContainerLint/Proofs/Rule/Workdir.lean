/-
Working directories that stages inherit.

Files are copied to a relative place safely where a working directory is set: in the stage
itself, in the earlier stage that it is based on by name, in the one that this is based on,
and so on. This line of stages is what the rule on relative copies is about.

The rule remembers the names of stages that have a working directory. It remembers a stage
without a name by its image, however, so that such a stage stands in for its image: a
later stage that starts from the same image is taken for one that is based on it. Apart
from this, a copy is reported exactly if no stage of the line sets a working directory.
-/
import ContainerLint.Proofs.Rule.Stage

namespace ContainerLint.Dockerfile

open ContainerLint.Text

/-! ## Relative places -/

/-- The place is relative: without its quotes, it starts neither with a slash nor with a
variable nor with a drive. -/
def IsRelative (destination : String) : Prop :=
  (∀ rest, Node.unquote destination ≠ '/' :: rest) ∧
  (∀ rest, Node.unquote destination ≠ '$' :: rest) ∧
  ∀ letter slash rest, Node.unquote destination = letter :: ':' :: slash :: rest →
    letter.isAlpha = true → slash ≠ '\\' ∧ slash ≠ '/'

/-- The node copies files to a relative place. -/
def CopiesToRelative (n : Node) : Prop :=
  ∃ sources destination flags, n.instruction = .copy sources destination flags ∧
    IsRelative destination

theorem head?_beq_eq_false_iff {c : Char} {cs : List Char} :
    (cs.head? == some c) = false ↔ ∀ rest, cs ≠ c :: rest := by
  cases cs with
  | nil => exact iff_of_true rfl fun _ => nofun
  | cons d cs =>
    rw [beq_eq_false_iff_ne]
    simp

/-- A drive is a letter, a colon and a slash of either kind. -/
theorem startsDrive_eq_false_iff {cs : List Char} :
    Node.startsDrive cs = false ↔ ∀ letter slash rest, cs = letter :: ':' :: slash :: rest →
      letter.isAlpha = true → slash ≠ '\\' ∧ slash ≠ '/' := by
  unfold Node.startsDrive
  split
  next letter slash rest =>
    rw [Bool.and_eq_false_imp, Bool.or_eq_false_iff, beq_eq_false_iff_ne, beq_eq_false_iff_ne]
    constructor
    · intro h letter' slash' rest' heq hletter
      cases heq
      exact h hletter
    · intro h hletter
      exact h letter slash rest rfl hletter
  next hother =>
    exact iff_of_true rfl fun letter slash rest heq => absurd heq (hother letter slash rest)

/-- What the rule takes for absolute is what is not relative. -/
theorem isAbsolute_eq_false_iff {destination : String} :
    Node.isAbsolute destination = false ↔ IsRelative destination := by
  rw [Node.isAbsolute, Bool.or_eq_false_iff, Bool.or_eq_false_iff, head?_beq_eq_false_iff,
    head?_beq_eq_false_iff, startsDrive_eq_false_iff, and_assoc, IsRelative]

/-! ## Stages that are based on each other -/

namespace Stage

/-- The stage starts from the one before, whose name it gives for its image. -/
def IsBasedOn (s before : Stage) : Prop :=
  ∃ image named, s.base = some image ∧ before.base = some named ∧ named.IsCalled image.image

/-- The image that the stage starts from; without one it is empty. -/
def imageName (s : Stage) : String :=
  (s.base.map Image.image).getD ""

/-- The name of the stage, if it has one. -/
def name? (s : Stage) : Option String :=
  s.base.bind stageOf

end Stage

namespace Stages

/-- Something holds of the current stage or of one in its line: of the stage that it is
based on, of the one that this is based on, and so on. Each is seen with the stages before
it. Where several stages have the same name, each of them counts. -/
inductive InLine (q : Stages → Prop) : Stages → Prop
  | here {s : Stages} : q s → InLine q s
  | based {s : Stages} {newer older : List Stage} {p : Stage} :
      s.earlier = newer ++ p :: older → s.current.IsBasedOn p → InLine q ⟨p, older⟩ → InLine q s

/-- The current stage sets a working directory. -/
def SetsWorkdir (s : Stages) : Prop :=
  s.current.Has "WORKDIR"

/-- The current stage starts from the image of an earlier one that has no name and sets a
working directory. -/
def SharesImage (s : Stages) : Prop :=
  ∃ image, s.current.base = some image ∧ ∃ p ∈ s.earlier, p.name? = none ∧ p.Has "WORKDIR" ∧
    lower p.imageName = lower image.image

/-- One of two properties holds in the line of a stage if one of them does. -/
theorem inLine_or_iff {q r : Stages → Prop} {s : Stages} :
    InLine (fun s => q s ∨ r s) s ↔ InLine q s ∨ InLine r s := by
  constructor
  · intro h
    induction h with
    | here h => exact h.imp .here .here
    | based hearlier hbased _ ih => exact ih.imp (.based hearlier hbased) (.based hearlier hbased)
  · rintro (h | h)
    · induction h with
      | here h => exact .here (.inl h)
      | based hearlier hbased _ ih => exact .based hearlier hbased ih
    · induction h with
      | here h => exact .here (.inr h)
      | based hearlier hbased _ ih => exact .based hearlier hbased ih

end Stages

/-! ## What is remembered -/

/-- The name under which a stage is remembered. -/
def Stage.label (s : Stage) : String :=
  s.name?.getD (lower s.imageName)

/-- The stage counts as one with a working directory. -/
def Stages.Counts (s : Stages) : Prop :=
  s.InLine fun s => s.SetsWorkdir ∨ s.SharesImage

/-- Some of the stages counts and is remembered under the name. -/
def Remembered (name : String) : List Stage → Prop
  | [] => False
  | p :: older => (Stages.Counts ⟨p, older⟩ ∧ p.label = name) ∨ Remembered name older

/-- A name is remembered if a stage of this label counted. -/
theorem remembered_iff {name : String} {stages : List Stage} : Remembered name stages ↔
    ∃ newer p older, stages = newer ++ p :: older ∧ Stages.Counts ⟨p, older⟩ ∧ p.label = name := by
  induction stages with
  | nil =>
    refine iff_of_false id ?_
    rintro ⟨newer, p, older, h, -⟩
    exact absurd h.symm (List.append_ne_nil_of_right_ne_nil newer (List.cons_ne_nil _ _))
  | cons s stages ih =>
    rw [Remembered, ih]
    constructor
    · rintro (h | ⟨newer, p, older, rfl, h⟩)
      · exact ⟨[], s, stages, rfl, h⟩
      · exact ⟨s :: newer, p, older, rfl, h⟩
    · rintro ⟨newer, p, older, hstages, h⟩
      cases newer with
      | nil =>
        cases hstages
        exact .inl h
      | cons q newer =>
        cases hstages
        exact .inr ⟨newer, p, older, rfl, h⟩

theorem Stage.isBasedOn_iff {s p : Stage} {image : Image} (hs : s.base = some image) :
    s.IsBasedOn p ↔ p.name? = some (lower image.image) := by
  unfold IsBasedOn name?
  simp only [hs, Option.some.injEq, exists_and_left, exists_eq_left', Image.isCalled_iff,
    Option.bind_eq_some_iff]

/-- **A stage that has just begun** counts exactly if its image is the name of one that is
remembered. A stage without a name is remembered by its image, so that whatever it is
based on, the new stage is based on as well. -/
theorem counts_iff_remembered {image : Image} {earlier : List Stage} :
    Stages.Counts ⟨⟨some image, []⟩, earlier⟩ ↔ Remembered (lower image.image) earlier := by
  rw [remembered_iff]
  constructor
  · intro h
    cases h with
    | here h =>
      obtain ⟨image', himage, p, hp, hname, hsets, hshares⟩ :=
        h.resolve_left (Stage.not_has_of_nil _ _)
      cases himage
      obtain ⟨newer, older, rfl⟩ := List.append_of_mem hp
      refine ⟨newer, p, older, rfl, .here (.inl hsets), ?_⟩
      rw [Stage.label, hname]
      exact hshares
    -- a stage that counts by its base leads back to one that sets a directory
    | @based _ newer older p hearlier hbased h =>
      refine ⟨newer, p, older, hearlier, h, ?_⟩
      rw [Stage.label, (Stage.isBasedOn_iff rfl).mp hbased]
      rfl
  · rintro ⟨newer, p, older, rfl, hcounts, hlabel⟩
    unfold Stage.label at hlabel
    cases hname : p.name? with
    | some name =>
      rw [hname] at hlabel
      exact .based rfl ((Stage.isBasedOn_iff rfl).mpr (hname.trans (congrArg some hlabel))) hcounts
    | none =>
      rw [hname] at hlabel
      cases hcounts with
      | here h =>
        rcases h with hsets | ⟨image', himage, p', hp', hname', hsets', hshares⟩
        · exact .here (.inr ⟨image, rfl, p, by simp, hname, hsets, hlabel⟩)
        · have hsame : lower image'.image = lower image.image := by
            rw [← hlabel, Stage.imageName, himage]
            rfl
          exact .here (.inr ⟨image, rfl, p', by simp [hp'], hname', hsets', hshares.trans hsame⟩)
      | @based _ newer' older' p' hearlier hbased h =>
        obtain ⟨image', named, himage, hnamed, hcalled⟩ := hbased
        have hsame : lower image'.image = lower image.image := by
          rw [← hlabel, Stage.imageName, himage]
          rfl
        have hsplit : newer ++ p :: older = (newer ++ p :: newer') ++ p' :: older' := by
          rw [show older = newer' ++ p' :: older' from hearlier, List.append_assoc,
            List.cons_append]
        refine .based hsplit ⟨image, named, rfl, hnamed, ?_⟩ h
        rw [Image.isCalled_iff] at hcalled ⊢
        rw [hcalled, hsame]

/-- What counts depends only on the base image of the current stage and on whether it sets
a working directory. -/
theorem counts_congr {s s' : Stage} {earlier : List Stage} (hbase : s.base = s'.base)
    (hsets : s.Has "WORKDIR" ↔ s'.Has "WORKDIR") :
    Stages.Counts ⟨s, earlier⟩ ↔ Stages.Counts ⟨s', earlier⟩ := by
  have himp : ∀ {s s' : Stage}, s.base = s'.base → (s.Has "WORKDIR" → s'.Has "WORKDIR") →
      Stages.Counts ⟨s, earlier⟩ → Stages.Counts ⟨s', earlier⟩ := by
    intro s s' hbase hsets h
    cases h with
    | here h =>
      refine .here (h.imp hsets ?_)
      rintro ⟨image, himage, hshares⟩
      exact ⟨image, hbase ▸ himage, hshares⟩
    | based hearlier hbased h =>
      obtain ⟨image, named, himage, hnamed⟩ := hbased
      exact .based hearlier ⟨image, named, hbase ▸ himage, hnamed⟩ h
  exact ⟨himp hbase hsets.mp, himp hbase.symm hsets.mpr⟩

/-! ## Steps -/

section

variable {w : Workdirs} {line : Nat} {n : Node}

/-- A stage starts with a directory if its base is remembered. -/
theorem stepRelativeCopy_of_base {image : Image} (hn : n.base? = some image) :
    stepRelativeCopy w line n =
      (⟨(stageOf image).getD (lower image.image), w.stages.contains (lower image.image),
        if w.stages.contains (lower image.image) then
          w.stages ++ [(stageOf image).getD (lower image.image)] else w.stages⟩, []) := by
  rw [stepRelativeCopy, Node.base?_eq_some_iff.mp hn]

theorem stepRelativeCopy_of_workdir (hn : n.instruction.keyword = "WORKDIR") :
    stepRelativeCopy w line n =
      ({ w with isSet := true, stages := w.stages ++ [w.current] }, []) := by
  obtain ⟨instruction, script⟩ := n
  cases instruction with
  | workdir => rfl
  | _ => simp [Instruction.keyword] at hn

/-- Other instructions are not remembered. -/
theorem stepRelativeCopy_of_other (hbase : n.base? = none)
    (hn : n.instruction.keyword ≠ "WORKDIR") : (stepRelativeCopy w line n).1 = w := by
  obtain ⟨instruction, script⟩ := n
  cases instruction with
  | base => cases hbase
  | workdir => exact absurd rfl hn
  | _ => rfl

/-- What is found at a node. -/
theorem reportsIf_stepRelativeCopy :
    ReportsIf (CopiesToRelative n ∧ ¬ w.isSet = true) line (stepRelativeCopy w line n).2 := by
  obtain ⟨instruction, script⟩ := n
  cases instruction with
  | copy sources destination flags =>
    have hcopies : CopiesToRelative ⟨.copy sources destination flags, script⟩ ↔
        ¬ Node.isAbsolute destination = true := by
      rw [Bool.not_eq_true, isAbsolute_eq_false_iff]
      constructor
      · rintro ⟨_, _, _, heq, hrelative⟩
        cases heq
        exact hrelative
      · intro hrelative
        exact ⟨sources, destination, flags, rfl, hrelative⟩
    change ReportsIf _ line (if w.isSet || Node.isAbsolute destination then [] else noteAt line)
    rw [hcopies]
    split
    next hsafe =>
      rw [Bool.or_eq_true] at hsafe
      exact reportsIf_nil (fun h => hsafe.elim h.2 h.1) line
    next hsafe =>
      rw [Bool.or_eq_true, not_or] at hsafe
      exact reportsIf_singleton ⟨hsafe.2, hsafe.1⟩ ⟨line, none, none⟩
  | _ =>
    refine reportsIf_nil ?_ line
    rintro ⟨⟨_, _, _, heq, -⟩, -⟩
    cases heq

end

/-- What is remembered, by the stages so far. -/
structure AreWorkdirs (s : Stages) (w : Workdirs) : Prop where
  current : w.current = s.current.label
  isSet : w.isSet = true ↔ s.Counts
  stages : ∀ name, name ∈ w.stages ↔ Remembered name (s.current :: s.earlier)

theorem areWorkdirs_start : AreWorkdirs ⟨⟨none, []⟩, []⟩ ⟨"", false, []⟩ := by
  have hnone : ¬ Stages.Counts ⟨⟨none, []⟩, []⟩ := by
    intro h
    cases h with
    | here h =>
      rcases h with h | ⟨_, h, -⟩
      · exact Stage.not_has_of_nil _ _ h
      · cases h
    | based _ hbased _ =>
      obtain ⟨_, _, h, -⟩ := hbased
      cases h
  refine ⟨rfl, iff_of_false Bool.false_ne_true hnone, fun name => ?_⟩
  exact iff_of_false List.not_mem_nil fun h => (h.resolve_right id).elim fun h _ => hnone h

/-- The state goes on to know which stages count. -/
theorem AreWorkdirs.step {s : Stages} {w : Workdirs} (h : AreWorkdirs s w) (line : Nat)
    (n : Node) : AreWorkdirs (s.add n) (stepRelativeCopy w line n).1 := by
  cases hbase : n.base? with
  | some image =>
    rw [stepRelativeCopy_of_base hbase, Stages.add_of_base hbase]
    -- what is remembered about the base decides whether the new stage counts
    have hset : w.stages.contains (lower image.image) = true ↔
        Stages.Counts ⟨⟨some image, []⟩, s.current :: s.earlier⟩ := by
      rw [List.contains_iff_mem, h.stages, counts_iff_remembered]
    refine ⟨rfl, hset, fun name => ?_⟩
    dsimp only
    rw [Remembered, ← hset, ← h.stages]
    split
    next hcontains =>
      rw [List.mem_append, List.mem_singleton, and_iff_right hcontains, or_comm, eq_comm]
      rfl
    next hcontains => exact ⟨.inr, fun h => h.resolve_left fun hcounts => hcontains hcounts.1⟩
  | none =>
    rw [Stages.add_of_not_base hbase]
    by_cases hn : n.instruction.keyword = "WORKDIR"
    · rw [stepRelativeCopy_of_workdir hn]
      have hcounts : Stages.Counts
          { s with current := { s.current with nodes := s.current.nodes ++ [n] } } :=
        .here (.inl (Stage.has_concat_iff.mpr (.inr hn)))
      refine ⟨h.current, iff_of_true rfl hcounts, fun name => ?_⟩
      dsimp only
      rw [List.mem_append, List.mem_singleton, h.stages, h.current, Remembered, Remembered,
        and_iff_right hcounts]
      constructor
      · rintro ((⟨-, hlabel⟩ | hearlier) | hlabel)
        · exact .inl hlabel
        · exact .inr hearlier
        · exact .inl hlabel.symm
      · rintro (hlabel | hearlier)
        · exact .inr hlabel.symm
        · exact .inl (.inr hearlier)
    · rw [stepRelativeCopy_of_other hbase hn]
      have hcounts : s.Counts ↔ Stages.Counts
          { s with current := { s.current with nodes := s.current.nodes ++ [n] } } :=
        counts_congr rfl (by rw [Stage.has_concat_iff, or_iff_left hn])
      refine ⟨h.current, h.isSet.trans hcounts, fun name => ?_⟩
      rw [h.stages, Remembered, Remembered, ← hcounts]
      rfl

/-- The rule reports copies to a relative place in a stage that does not count. -/
theorem exists_reportsExactly_relativeCopy (nodes : List (Nat × Node)) :
    ∃ t, relativeCopy.trace nodes = .ok t ∧ t.ReportsExactly nodes fun past n =>
      CopiesToRelative n ∧ ¬ (Stages.ofNodes past).Counts := by
  refine Checker.exists_reportsExactly_ofStep (fun past w => AreWorkdirs (Stages.ofNodes past) w)
    areWorkdirs_start (fun past w line n h => ?_) (fun past w line n h => ?_) nodes
  · rw [Stages.ofNodes_concat]
    exact h.step line n
  · rw [← h.isSet]
    exact reportsIf_stepRelativeCopy

/-! ## The rule -/

/-- **Relative copies.** A copy to a relative place is reported exactly if no stage in the
line of its own sets a working directory, and none starts from the image of an earlier
stage that has no name and sets one. -/
theorem relative_copies_reported (options : RuleOptions) (nodes : List (Nat × Node)) :
    ∃ t, Catalogue.bundled.run? "DL3045" options nodes = some (.ok t) ∧
      t.ReportsExactly nodes fun past n => CopiesToRelative n ∧
        ¬ (Stages.ofNodes past).InLine Stages.SetsWorkdir ∧
        ¬ (Stages.ofNodes past).InLine Stages.SharesImage := by
  obtain ⟨t, ht, hreports⟩ := exists_reportsExactly_relativeCopy nodes
  simp only [Stages.Counts, Stages.inLine_or_iff, not_or] at hreports
  exact ⟨t, congrArg some ht, hreports⟩

/-- Two stages that start from one image, with a working directory in the first and a copy
in the second. -/
def sharingNodes : List (Nat × Node) := [
  (1, ⟨.base (Image.ofReference "alpine:3.18" none none), none⟩),
  (2, ⟨.workdir "/app", none⟩),
  (3, ⟨.base (Image.ofReference "alpine:3.19" none none), none⟩),
  (4, ⟨.copy ["a"] "b" {}, none⟩)]

/-- The copy is to a relative place, and its stage is based on no other. It is not
reported, since the image has been used before. -/
theorem relative_copy_hidden_by_image :
    Catalogue.bundled.run? "DL3045" [] sharingNodes = some (.ok ⟨[[], [], [], []], []⟩) ∧
      CopiesToRelative ⟨.copy ["a"] "b" {}, none⟩ ∧
      ¬ (Stages.ofNodes (sharingNodes.take 3)).InLine Stages.SetsWorkdir := by
  refine ⟨rfl, ⟨_, _, _, rfl, isAbsolute_eq_false_iff.mp rfl⟩, fun h => ?_⟩
  have hnameless : ∀ p ∈ (Stages.ofNodes (sharingNodes.take 3)).earlier, p.name? = none := by
    intro p hp
    rcases List.mem_cons.mp hp with rfl | hp
    · rfl
    · rw [List.mem_singleton.mp hp]
      rfl
  cases h with
  | here h => exact Stage.not_has_of_nil _ _ h
  | @based _ newer older p hearlier hbased _ =>
    have hnone := hnameless p (hearlier ▸ List.mem_append_right _ List.mem_cons_self)
    rw [(Stage.isBasedOn_iff rfl).mp hbased] at hnone
    cases hnone

end ContainerLint.Dockerfile
