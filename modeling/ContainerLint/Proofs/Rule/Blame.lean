/-
Which files the rules for charts blame.

A rule may blame three kinds of files: the directory of the chart, which has no name of
its own; a file that is checked; and a file that a chart should have and that is not
there. A file that is there but left out is of none of these kinds.

Each family of rules keeps to this for its own reason. The rules on the description and
on the values blame one file, and see it only where it was read; those on templates and
helpers take the path from what they see; and the three that ask for a file look at all
files that are there, so that they are silent where it is only left out.
-/
import ContainerLint.Proofs.Rule.Ending
import ContainerLint.Proofs.Text.Order
import Mathlib.Data.List.Nodup

namespace ContainerLint

open ContainerLint.Text

namespace Chart

/-! ## Files that can be blamed -/

/-- The files that a chart is blamed for not having. -/
def expectedFiles : List String := [chartFile, valuesFile, "templates/NOTES.txt"]

/-- A file that may be blamed. -/
inductive View.MayBlame (v : View) : String → Prop
  /-- The chart as a whole. -/
  | directory : v.MayBlame "."
  /-- A file that is checked. -/
  | checked {file : String} : file ∈ v.files → v.MayBlame file
  /-- A file that is not there. -/
  | absent {file : String} : file ∈ expectedFiles → file ∉ v.present → v.MayBlame file

/-- What is seen of a chart was read from files that are checked. -/
structure View.IsRead (v : View) : Prop where
  metadata : ∀ m, v.metadata = some m → chartFile ∈ v.files
  values : ∀ values, v.values = some values → valuesFile ∈ v.files
  templates : ∀ t ∈ v.templates, t.path ∈ v.files
  helpers : ∀ f, v.helpers = some f → f.template.path ∈ v.files

/-- A file that is there is found by its name. -/
theorem View.hasFile_of_mem {v : View} {name file : String} (hfile : file ∈ v.present)
    (hname : file = name ∨ endsWith file ("/" ++ name) = true) : v.hasFile name = true := by
  refine List.any_eq_true.mpr ⟨file, hfile, ?_⟩
  rw [Bool.or_eq_true, beq_iff_eq]
  exact hname

/-- All findings are about one file. -/
def AllAbout (file : String) (findings : List Finding) : Prop :=
  ∀ x ∈ findings, x.file = file

theorem mem_findIf {condition : Bool} {f x : Finding} :
    x ∈ findIf condition f ↔ condition = true ∧ x = f := by
  unfold findIf
  split
  next h => rw [List.mem_singleton, and_iff_right h]
  next h => exact iff_of_false List.not_mem_nil fun hx => h hx.1

theorem allAbout_nil (file : String) : AllAbout file [] :=
  fun _ hx => absurd hx List.not_mem_nil

theorem allAbout_findIf (condition : Bool) (f : Finding) : AllAbout f.file (findIf condition f) :=
  fun _ hx => congrArg Finding.file (mem_findIf.mp hx).2

/-- Findings that are gathered are about the file if all are. -/
theorem allAbout_flatMap {α : Type} {file : String} {find : α → List Finding} (as : List α)
    (h : ∀ a, AllAbout file (find a)) : AllAbout file (as.flatMap find) := by
  intro x hx
  obtain ⟨a, -, hx⟩ := List.mem_flatMap.mp hx
  exact h a x hx

/-- All that is found may be blamed on the file that it is blamed on. -/
def View.BlamesRightly (v : View) (findings : List Finding) : Prop :=
  ∀ x ∈ findings, v.MayBlame x.file

/-- To be about one file that may be blamed is to blame rightly. -/
theorem View.blamesRightly_of_allAbout {v : View} {file : String} {findings : List Finding}
    (hfile : v.MayBlame file) (h : AllAbout file findings) : v.BlamesRightly findings := by
  intro x hx
  rw [h x hx]
  exact hfile

end Chart

/-- The check only blames files that may be blamed. -/
def Check.BlamesRightly : Check → Prop
  | .chart check => ∀ info options v found, v.IsRead → check info options v = .ok found →
      ∀ f ∈ found, v.MayBlame f.file
  | _ => True

namespace Chart

/-! ## Families of checks -/

/-- A rule blames rightly if its findings do. -/
theorem blamesRightly_always {find : View → List Finding}
    (h : ∀ v : View, v.IsRead → v.BlamesRightly (find v)) : (always find).BlamesRightly := by
  intro info options v found hv hfound f hf
  rw [← Except.ok.inj hfound] at hf
  obtain ⟨x, hx, rfl⟩ := List.mem_map.mp hf
  exact h v hv x hx

/-- A rule that may fail blames rightly if its findings do. -/
theorem blamesRightly_attempt {find : View → Except RuleError (List Finding)}
    (h : ∀ (v : View) findings, v.IsRead → find v = .ok findings → v.BlamesRightly findings) :
    (attempt find).BlamesRightly := by
  intro info options v found hv hfound f hf
  obtain ⟨findings, hfind, rfl⟩ := map_eq_ok_iff.mp hfound
  obtain ⟨x, hx, rfl⟩ := List.mem_map.mp hf
  exact h v findings hv hfind x hx

/-- Rules on the description blame `Chart.yaml`, which is there if it was read. -/
theorem blamesRightly_inMetadata {check : Metadata → List Finding}
    (h : ∀ m, AllAbout chartFile (check m)) : (always (inMetadata check)).BlamesRightly := by
  refine blamesRightly_always fun v hv => ?_
  unfold inMetadata
  split
  next m hm => exact View.blamesRightly_of_allAbout (.checked (hv.metadata m hm)) (h m)
  next => exact View.blamesRightly_of_allAbout .directory (allAbout_nil _)

/-- Rules on the values blame `values.yaml`. -/
theorem blamesRightly_inValues {check : View → Values → List Finding}
    (h : ∀ v values, AllAbout valuesFile (check v values)) :
    (always fun v => inValues (check v) v).BlamesRightly := by
  refine blamesRightly_always fun v hv => ?_
  unfold inValues
  split
  next values hvalues =>
    exact View.blamesRightly_of_allAbout (.checked (hv.values values hvalues)) (h v values)
  next => exact View.blamesRightly_of_allAbout .directory (allAbout_nil _)

/-- Rules that judge the values path by path blame `values.yaml`. -/
theorem blamesRightly_atPaths {judge : String → Value → Nat → Except RuleError (List Finding)}
    (h : ∀ path value line found, judge path value line = .ok found → AllAbout valuesFile found) :
    (attempt (atPaths judge)).BlamesRightly := by
  refine blamesRightly_attempt fun v findings hv hfind => ?_
  unfold atPaths at hfind
  split at hfind
  next values hvalues =>
    obtain ⟨parts, hparts, rfl⟩ := map_eq_ok_iff.mp hfind
    refine View.blamesRightly_of_allAbout (.checked (hv.values values hvalues)) fun x hx => ?_
    obtain ⟨part, hpart, hx⟩ := List.mem_flatten.mp hx
    obtain ⟨path, -, hpath⟩ := exists_of_mem_right (mapM_eq_ok_iff.mp hparts) hpart
    exact h path _ _ part hpath x hx
  next =>
    rw [← Except.ok.inj hfind]
    exact View.blamesRightly_of_allAbout .directory (allAbout_nil _)

/-- Rules on helpers blame the file that defines them. -/
theorem blamesRightly_inHelpers {check : View → HelperFile → List Finding}
    (h : ∀ v f, AllAbout f.template.path (check v f)) :
    (always fun v => inHelpers (check v) v).BlamesRightly := by
  refine blamesRightly_always fun v hv => ?_
  unfold inHelpers
  split
  next f hf => exact View.blamesRightly_of_allAbout (.checked (hv.helpers f hf)) (h v f)
  next => exact View.blamesRightly_of_allAbout .directory (allAbout_nil _)

/-- Rules on templates blame the template. -/
theorem blamesRightly_inTemplates {find : Template.Document → List Finding}
    (h : ∀ t, AllAbout t.path (find t)) :
    (always fun v => v.templates.flatMap find).BlamesRightly := by
  refine blamesRightly_always fun v hv x hx => ?_
  obtain ⟨t, ht, hx⟩ := List.mem_flatMap.mp hx
  rw [h t x hx]
  exact .checked (hv.templates t ht)

/-- A file that is blamed for not being there is looked for among all that are there. -/
theorem blamesRightly_missing {condition : View → Bool} {f : Finding} (name : String)
    (hexpected : f.file ∈ expectedFiles)
    (hname : f.file = name ∨ endsWith f.file ("/" ++ name) = true)
    (h : ∀ v, condition v = true → v.hasFile name = false) :
    (always fun v => findIf (condition v) f).BlamesRightly := by
  refine blamesRightly_always fun v _ x hx => ?_
  obtain ⟨hcondition, rfl⟩ := mem_findIf.mp hx
  refine .absent hexpected fun hpresent => ?_
  have hfile := View.hasFile_of_mem hpresent hname
  rw [h v hcondition] at hfile
  exact Bool.false_ne_true hfile

/-! ## The rules

Those that are alone in their way come first. -/

theorem blamesRightly_missingChartFile : (always missingChartFile).BlamesRightly := by
  refine blamesRightly_missing chartFile (by decide) (.inl rfl) fun v hv => ?_
  simpa using (Bool.and_eq_true_iff.mp hv).2

theorem blamesRightly_missingValuesFile : (always missingValuesFile).BlamesRightly := by
  refine blamesRightly_missing valuesFile (by decide) (.inl rfl) fun v hv => ?_
  simpa using (Bool.and_eq_true_iff.mp hv).2

theorem blamesRightly_missingNotes : (always missingNotes).BlamesRightly := by
  refine blamesRightly_missing "NOTES.txt" (by decide) (.inr (by decide)) fun v hv => ?_
  simpa using (Bool.and_eq_true_iff.mp hv).2

theorem blamesRightly_missingTemplates : (always missingTemplates).BlamesRightly :=
  blamesRightly_always fun _ _ => View.blamesRightly_of_allAbout .directory (allAbout_findIf _ _)

/-- A port is judged in three ways, and each blames `values.yaml`. -/
theorem blamesRightly_badPorts : (attempt badPorts).BlamesRightly := by
  refine blamesRightly_atPaths fun path value line found hfound => ?_
  unfold judgePort at hfound
  split at hfound
  next =>
    rw [← Except.ok.inj hfound]
    exact allAbout_nil _
  next =>
    obtain ⟨port?, -, hfound⟩ := bind_eq_ok_iff.mp hfound
    cases port? with
    | none =>
      rw [← Except.ok.inj hfound]
      exact allAbout_nil _
    | some port =>
      dsimp only at hfound
      split at hfound
      next =>
        rw [← Except.ok.inj hfound]
        exact allAbout_nil _
      next =>
        obtain ⟨number, -, hfound⟩ := bind_eq_ok_iff.mp hfound
        rw [← Except.ok.inj hfound]
        intro x hx
        rw [List.mem_singleton.mp hx]

theorem blamesRightly_zeroReplicas : (attempt zeroReplicas).BlamesRightly := by
  refine blamesRightly_atPaths fun path value line found hfound => ?_
  unfold judgeReplicas at hfound
  dsimp only at hfound
  split at hfound
  next =>
    rw [← Except.ok.inj hfound]
    exact allAbout_nil _
  next =>
    obtain ⟨count, -, hfound⟩ := bind_eq_ok_iff.mp hfound
    rw [← Except.ok.inj hfound]
    exact allAbout_findIf _ _

theorem blamesRightly_unclosedBlocks : (always unclosedBlocks).BlamesRightly := by
  refine blamesRightly_inTemplates fun t x hx => ?_
  obtain ⟨block, -, rfl⟩ := List.mem_map.mp hx
  rfl

theorem blamesRightly_oddTemplateFiles : (always oddTemplateFiles).BlamesRightly := by
  refine blamesRightly_always fun v _ x hx => ?_
  obtain ⟨file, hfile, hx⟩ := List.mem_flatMap.mp hx
  rw [allAbout_findIf _ _ x hx]
  exact .checked (mem_ordered_iff.mp hfile)

theorem blamesRightly_missingIncludes : (always missingIncludes).BlamesRightly := by
  refine blamesRightly_always fun v hv x hx => ?_
  obtain ⟨name, -, hx⟩ := List.mem_flatMap.mp hx
  split at hx
  next t ht =>
    rw [List.mem_singleton.mp hx]
    exact .checked (hv.templates t (List.mem_of_find?_eq_some ht))
  next => exact absurd hx List.not_mem_nil

/-- **The rules for charts only blame files that may be blamed.** -/
theorem bundledRules_blamesRightly : ∀ r ∈ bundledRules, r.check.BlamesRightly := by
  unfold bundledRules
  simp only [List.forall_mem_cons, List.not_mem_nil, false_imp_iff, implies_true, and_true,
    true_and, blamesRightly_missingChartFile, blamesRightly_missingValuesFile,
    blamesRightly_missingNotes, blamesRightly_missingTemplates, blamesRightly_badPorts,
    blamesRightly_zeroReplicas, blamesRightly_unclosedBlocks, blamesRightly_oddTemplateFiles,
    blamesRightly_missingIncludes]
  -- what is left goes from token to token, or belongs to one of the families
  and_intros
  all_goals first
    | exact trivial
    | exact blamesRightly_inMetadata fun _ => allAbout_findIf _ _
    | exact blamesRightly_inMetadata fun _ => allAbout_flatMap _ fun _ => allAbout_findIf _ _
    | exact blamesRightly_inValues fun _ _ => allAbout_flatMap _ fun _ => allAbout_findIf _ _
    | exact blamesRightly_inHelpers fun _ _ => allAbout_flatMap _ fun _ => allAbout_findIf _ _
    | exact blamesRightly_inTemplates fun _ => allAbout_flatMap _ fun _ => allAbout_findIf _ _

/-! ## Rules that ask for a file -/

/-- The names of files that rules ask for, with the codes of the rules. -/
def requiredFiles : List (String × String) :=
  [(chartFile, "HL1001"), (valuesFile, "HL1011"), ("NOTES.txt", "HL3008")]

theorem findIf_of_hasFile {v : View} {name : String} (h : v.hasFile name = true) (b : Bool)
    (f : Finding) : findIf (b && !v.hasFile name) f = [] := by
  rw [h, Bool.not_true, Bool.and_false]
  rfl

/-- The rules on missing files are silent where the file is there. -/
theorem exists_requiringRule : ∀ e ∈ requiredFiles, ∃ r ∈ bundledRules, ∃ find,
    r.code = e.2 ∧ r.check = always find ∧ ∀ v : View, v.hasFile e.1 = true → find v = [] := by
  unfold requiredFiles
  simp only [List.forall_mem_cons, List.not_mem_nil, false_imp_iff, implies_true, and_true]
  exact ⟨⟨_, List.mem_of_getElem? (i := 0) rfl, _, rfl, rfl,
      fun _ hv => findIf_of_hasFile hv _ _⟩,
    ⟨_, List.mem_of_getElem? (i := 9) rfl, _, rfl, rfl, fun _ hv => findIf_of_hasFile hv _ _⟩,
    ⟨_, List.mem_of_getElem? (i := 26) rfl, _, rfl, rfl, fun _ hv => findIf_of_hasFile hv _ _⟩⟩

/-- **A rule that asks for a file finds nothing where a file of that name is there.** -/
theorem check_eq_always_of_code {r : Rule} (hr : r ∈ Catalogue.bundled.rules)
    {e : String × String} (he : e ∈ requiredFiles) (hcode : r.code = e.2) :
    ∃ find, r.check = always find ∧ ∀ v : View, v.hasFile e.1 = true → find v = [] := by
  obtain ⟨r', hr', find, hcode', hcheck, hfind⟩ := exists_requiringRule e he
  -- codes are different, so there is no other rule of this code
  have hsame : r = r' := List.inj_on_of_nodup_map Catalogue.bundled.nodup hr
    (List.mem_append_right _ hr') (hcode.trans hcode'.symm)
  exact ⟨find, hsame ▸ hcheck, hfind⟩

end Chart

end ContainerLint
