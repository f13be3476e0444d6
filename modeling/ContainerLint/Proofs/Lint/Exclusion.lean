/-
Files that settings leave out.

A file that settings leave out is there and is not looked at. What it holds can change
nothing about a report; no failure is blamed on it; and a rule that asks for a file takes
it for one that is there.

The first is a statement about two trees that are the same but for what the files hold
that are left out. They are walked in step, so that the files that are kept are the same
list, and of the others the names are. Nothing else of a tree is read. The other two
follow from what the rules may blame.
-/
import ContainerLint.Proofs.Chart.Containment
import ContainerLint.Proofs.Files.Tree
import ContainerLint.Proofs.Rule.Blame

namespace ContainerLint

open ContainerLint.Text

/-! ## Trees that agree -/

/-- Two entries are of one kind, and hold the same if they are files that are not left
out. -/
def FileNode.AgreesUnless (leftOut : Bool) : FileNode → FileNode → Prop
  | .file a, .file b => leftOut = true ∨ a = b
  | .link _, .link _ => True
  | .directory _, .directory _ => True
  | _, _ => False

theorem FileNode.agreesUnless_refl (leftOut : Bool) (node : FileNode) :
    AgreesUnless leftOut node node := by
  cases node with
  | file => exact .inr rfl
  | link | directory => exact trivial

namespace Chart

/-- The settings leave out what is found at a path of the chart. -/
def leavesOut (s : Settings) (root : Path) (path : List String) : Bool :=
  isExcluded s root ⟨path, []⟩

/-- Only the path of a file decides. -/
theorem isExcluded_eq_leavesOut (s : Settings) (root : Path) (f : SourceFile) :
    isExcluded s root f = leavesOut s root f.parts := rfl

/-- The names of the files that settings leave out. -/
def leftOutNames (s : Settings) (root : Path) (chart : FileNode) : List String :=
  ((ownFiles chart).filter (isExcluded s root)).map SourceFile.name

section InStep

variable {s : Settings} {root : Path} {t₁ t₂ : FileNode}

theorem filterMap_eq_of_forall₂ {α β γ : Type} {f : α → Option γ} {g : β → Option γ}
    {as : List α} {bs : List β} (h : List.Forall₂ (fun a b => f a = g b) as bs) :
    as.filterMap f = bs.filterMap g := by
  induction h with
  | nil => rfl
  | cons hab _ ih => rw [List.filterMap_cons, List.filterMap_cons, hab, ih]

/-- A pair of entries gives the same file to check, or the same name of a file that is
left out, or nothing. -/
theorem ownFile?_of_agreesUnless {path : List String} {a b : FileNode}
    (h : FileNode.AgreesUnless (leavesOut s root path) a b) :
    (ownFile? (path, a)).filter (!isExcluded s root ·) =
        (ownFile? (path, b)).filter (!isExcluded s root ·) ∧
      ((ownFile? (path, a)).filter (isExcluded s root)).map SourceFile.name =
        ((ownFile? (path, b)).filter (isExcluded s root)).map SourceFile.name := by
  cases a with
  | file bytes =>
    cases b with
    | link | directory => exact h.elim
    | file bytes' =>
      unfold ownFile?
      -- files in a skipped directory are no files of the chart, whatever they have in them
      by_cases hskipped : path.dropLast.any skippedDirectories.contains = true
      · simp only [if_pos hskipped, Option.filter_none, and_self]
      · simp only [if_neg hskipped, Option.filter_some, isExcluded_eq_leavesOut]
        rcases h with hout | rfl
        · simp only [hout, Bool.not_true, Bool.false_eq_true, if_false, if_true, true_and]
          rfl
        · exact ⟨rfl, rfl⟩
  | link =>
    cases b with
    | file | directory => exact h.elim
    | link => exact ⟨rfl, rfl⟩
  | directory =>
    cases b with
    | file | link => exact h.elim
    | directory => exact ⟨rfl, rfl⟩

/-- Trees that agree but for files left out have the same other files, and leave the same ones
out. -/
theorem files_of_agreesUnless (h₁ : t₁.isProper = true) (h₂ : t₂.isProper = true)
    (hagree : ∀ path, Option.Rel (FileNode.AgreesUnless (leavesOut s root path))
      (t₁.nodeAt? path) (t₂.nodeAt? path)) :
    keptFiles s root t₁ = keptFiles s root t₂ ∧
      leftOutNames s root t₁ = leftOutNames s root t₂ := by
  have hstep := FileNode.forall₂_contents h₁ h₂ hagree
  have hsame : ∀ a b : List String × FileNode,
      a.1 = b.1 ∧ FileNode.AgreesUnless (leavesOut s root a.1) a.2 b.2 →
      (ownFile? a).filter (!isExcluded s root ·) = (ownFile? b).filter (!isExcluded s root ·) ∧
      ((ownFile? a).filter (isExcluded s root)).map SourceFile.name =
        ((ownFile? b).filter (isExcluded s root)).map SourceFile.name := by
    rintro ⟨path, a⟩ ⟨_, b⟩ ⟨rfl, hab⟩
    exact ownFile?_of_agreesUnless hab
  constructor
  · unfold keptFiles ownFiles
    rw [List.filter_filterMap, List.filter_filterMap]
    exact filterMap_eq_of_forall₂ (hstep.imp fun a b hab => (hsame a b hab).1)
  · unfold leftOutNames ownFiles
    rw [List.filter_filterMap, List.filter_filterMap, List.map_filterMap, List.map_filterMap]
    exact filterMap_eq_of_forall₂ (hstep.imp fun a b hab => (hsame a b hab).2)

/-- **A chart is read from the files that are kept and the names of the others.** -/
theorem readSource_congr (hkept : keptFiles s root t₁ = keptFiles s root t₂)
    (hnames : leftOutNames s root t₁ = leftOutNames s root t₂) :
    readSource s root t₁ = readSource s root t₂ := by
  have hkept : (ownFiles t₁).filter (not ∘ isExcluded s root) =
      (ownFiles t₂).filter (not ∘ isExcluded s root) := hkept
  unfold leftOutNames at hnames
  unfold readSource
  rw [List.partition_eq_filter_filter, List.partition_eq_filter_filter]
  dsimp only
  rw [hkept, hnames]

end InStep

/-! ## What is seen of a chart -/

section Reading

variable {s : Settings} {root : Path} {chart : FileNode} {c : Source}

/-- The files of a chart are all files that are not in a directory to skip. -/
theorem mem_ownFiles_iff (h : chart.isProper = true) {f : SourceFile} :
    f ∈ ownFiles chart ↔ f.parts ≠ [] ∧ chart.nodeAt? f.parts = some (.file f.bytes) ∧
      f.parts.dropLast.any skippedDirectories.contains = false := by
  obtain ⟨parts, bytes⟩ := f
  unfold ownFiles
  rw [List.mem_filterMap]
  constructor
  · rintro ⟨⟨path, node⟩, hmem, hown⟩
    obtain ⟨hne, hnode⟩ := (FileNode.mem_contents_iff h).mp hmem
    cases node with
    | link | directory => cases hown
    | file content =>
      unfold ownFile? at hown
      dsimp only at hown
      split at hown
      next => cases hown
      next hskipped =>
        cases hown
        exact ⟨hne, hnode, by simpa using hskipped⟩
  · rintro ⟨hne, hnode, hskipped⟩
    refine ⟨(parts, .file bytes), (FileNode.mem_contents_iff h).mpr ⟨hne, hnode⟩, ?_⟩
    exact if_neg (by rw [hskipped]; exact Bool.false_ne_true)

/-- A text that is found under a name is that of a file. -/
theorem mem_files_of_textNamed? {files : List SourceFile} {name text : String}
    (h : textNamed? files name = some text) : name ∈ files.map SourceFile.name := by
  obtain ⟨f, hfind, -⟩ := Option.bind_eq_some_iff.mp h
  have hname : f.name = name := by simpa using List.find?_some hfind
  exact List.mem_map.mpr ⟨f, List.mem_of_find?_eq_some hfind, hname⟩

/-- A template is known by the name of its file. -/
theorem path_of_mem_readTemplates {files : List SourceFile}
    {r : Reading (Template.Document × String)} (h : readTemplates s root files = .ok r) :
    ∀ e ∈ r.contents, e.1.path ∈ files.map SourceFile.name := by
  induction files generalizing r with
  | nil =>
    rw [← Except.ok.inj h]
    exact fun _ he => absurd he List.not_mem_nil
  | cons f files ih =>
    rw [List.map_cons]
    by_cases hf : isTemplate f = true
    · rw [readTemplates_cons_of_pos hf] at h
      obtain ⟨first, hfirst, h⟩ := bind_eq_ok_iff.mp h
      obtain ⟨rest, hrest, h⟩ := bind_eq_ok_iff.mp h
      have hpath : ∀ e ∈ first.contents, e.1.path = f.name := by
        unfold readTemplate readFile at hfirst
        split at hfirst
        next =>
          rw [← Except.ok.inj hfirst]
          exact fun _ he => absurd he List.not_mem_nil
        next text htext =>
          rw [← Except.ok.inj hfirst]
          intro e he
          rw [List.mem_singleton.mp he]
          rfl
      rw [← Except.ok.inj h]
      intro e he
      rcases List.mem_append.mp he with he | he
      · rw [hpath e he]
        exact List.mem_cons_self
      · exact List.mem_cons_of_mem _ (ih hrest e he)
    · rw [readTemplates_cons_of_neg hf] at h
      exact fun e he => List.mem_cons_of_mem _ (ih h e he)

/-- **All that is seen of a chart comes from files that are kept.** -/
theorem isRead_of_readSource (h : readSource s root chart = .ok c) : c.view.IsRead := by
  obtain ⟨metadata, values, templates, hmetadata, hvalues, htemplates, rfl⟩ :=
    readSource_eq_ok_iff.mp h
  have hpath := path_of_mem_readTemplates htemplates
  constructor
  · intro m hm
    rw [contents_of_readNamed hmetadata] at hm
    obtain ⟨text, htext, -⟩ := Option.bind_eq_some_iff.mp hm
    exact mem_files_of_textNamed? htext
  · intro v hv
    rw [contents_of_readNamed hvalues] at hv
    obtain ⟨text, htext, -⟩ := Option.bind_eq_some_iff.mp hv
    exact mem_files_of_textNamed? htext
  · intro t ht
    obtain ⟨e, he, rfl⟩ := List.mem_map.mp ht
    exact hpath e he
  · intro f hf
    obtain ⟨e, hfind, rfl⟩ := Option.map_eq_some_iff.mp hf
    exact hpath e (List.mem_of_find?_eq_some hfind)

/-- Every file that the chart owns is there, whether it is left out or not. -/
theorem mem_present_of_readSource (h : readSource s root chart = .ok c) {f : SourceFile}
    (hf : f ∈ ownFiles chart) : f.name ∈ c.view.present := by
  obtain ⟨metadata, values, templates, -, -, -, rfl⟩ := readSource_eq_ok_iff.mp h
  unfold View.present
  rw [List.mem_append]
  by_cases hout : isExcluded s root f = true
  · exact .inr (List.mem_map_of_mem (List.mem_filter.mpr ⟨hf, hout⟩))
  · exact .inl (List.mem_map_of_mem (List.mem_filter.mpr ⟨hf, by simpa using hout⟩))

/-- The rules see no file that is left out. -/
theorem exists_of_mem_files (h : readSource s root chart = .ok c) {name : String}
    (hname : name ∈ c.view.files) :
    ∃ f ∈ ownFiles chart, leavesOut s root f.parts = false ∧ f.name = name := by
  obtain ⟨metadata, values, templates, -, -, -, rfl⟩ := readSource_eq_ok_iff.mp h
  obtain ⟨f, hf, rfl⟩ := List.mem_map.mp hname
  obtain ⟨hown, hkept⟩ := List.mem_filter.mp hf
  rw [isExcluded_eq_leavesOut, Bool.not_eq_true'] at hkept
  exact ⟨f, hown, hkept, rfl⟩

/-- **A file that is left out may not be blamed.** It is not the chart as a whole, is not
among the files that are checked, and is not missing. -/
theorem not_mayBlame_of_leavesOut (hproper : chart.isProper = true)
    (h : readSource s root chart = .ok c) {path : List String} {bytes : List UInt8}
    (hne : path ≠ []) (hfile : chart.nodeAt? path = some (.file bytes))
    (hout : leavesOut s root path = true) : ¬ c.view.MayBlame (joinWith "/" path) := by
  have hnames := (FileNode.of_nodeAt?_of_isProper hproper hfile).1
  intro hblame
  generalize hjoined : joinWith "/" path = joined at hblame
  cases hblame with
  | directory =>
    have hsplit := splitAtChar_joinWith hnames hne
    rw [hjoined] at hsplit
    have hpath : path.map String.toList = ["."].map String.toList := hsplit.symm
    have hpath : path = ["."] :=
      List.map_injective_iff.mpr (fun a b hab => String.toList_inj.mp hab) hpath
    have hdot := hnames "." (hpath ▸ List.mem_singleton_self _)
    exact absurd hdot (by decide)
  | checked hchecked =>
    obtain ⟨f, hf, hkept, hname⟩ := exists_of_mem_files h hchecked
    obtain ⟨hfne, hfnode, -⟩ := (mem_ownFiles_iff hproper).mp hf
    have hfnames := (FileNode.of_nodeAt?_of_isProper hproper hfnode).1
    -- names of files in a chart are different, so the file is one that is kept
    have hsame := joinWith_slash_inj hfnames hnames hfne hne (hname.trans hjoined.symm)
    rw [hsame, hout] at hkept
    cases hkept
  | absent hexpected habsent =>
    have hcases : path = ["Chart.yaml"] ∨ path = ["values.yaml"] ∨
        path = ["templates", "NOTES.txt"] := by
      rw [← hjoined] at hexpected
      have hinj : ∀ other : List String, (∀ name ∈ other, isEntryName name = true) → other ≠ [] →
          joinWith "/" path = joinWith "/" other → path = other :=
        fun other hother hother' => joinWith_slash_inj hnames hother hne hother'
      rcases List.mem_cons.mp hexpected with heq | hexpected
      · exact .inl (hinj ["Chart.yaml"] (by decide) (by decide) heq)
      rcases List.mem_cons.mp hexpected with heq | hexpected
      · exact .inr (.inl (hinj ["values.yaml"] (by decide) (by decide) heq))
      · exact .inr (.inr (hinj ["templates", "NOTES.txt"] (by decide) (by decide)
          (List.mem_singleton.mp hexpected)))
    have hskipped : path.dropLast.any skippedDirectories.contains = false := by
      rcases hcases with rfl | rfl | rfl <;> decide
    refine habsent (hjoined ▸ mem_present_of_readSource h (f := ⟨path, bytes⟩) ?_)
    exact (mem_ownFiles_iff hproper).mpr ⟨hne, hfile, hskipped⟩

/-- A file of a name that the chart owns is found by that name. -/
theorem hasFile_of_mem_ownFiles (h : readSource s root chart = .ok c) {f : SourceFile}
    (hf : f ∈ ownFiles chart) {name : String} (hname : f.parts.getLast? = some name) :
    c.view.hasFile name = true := by
  refine View.hasFile_of_mem (mem_present_of_readSource h hf) ?_
  obtain ⟨front, hparts⟩ := List.getLast?_eq_some_iff.mp hname
  unfold SourceFile.name
  rw [hparts]
  cases front with
  | nil => exact .inl (String.ofList_toList)
  | cons first front =>
    have hjoined : (joinWith "/" (first :: front ++ [name])).toList =
        join ['/'] ((first :: front).map String.toList) ++ ['/'] ++ name.toList := by
      unfold joinWith
      rw [String.toList_ofList, List.map_append]
      exact join_append ['/'] (by simp) (by simp)
    refine .inr (List.isSuffixOf_iff_suffix.mpr ?_)
    rw [hjoined, String.toList_append, List.append_assoc]
    exact List.suffix_append _ _

end Reading

end Chart

/-! ## The failures of rules -/

namespace Linter

open ContainerLint.Chart

variable {l : Linter}

/-- Where the failures in a chart come from: a rule that sees the whole, or one that goes
through a template. -/
theorem exists_rule_of_mem_sourceFailures {view : View} {found : List Failure} {f : Failure}
    (h : l.sourceFailures view = .ok found) (hf : f ∈ found) :
    ∃ r ∈ l.catalogue.rules,
      (∃ check part, r.check = .chart check ∧
        check r.toRuleInfo (l.optionsOf r) view = .ok part ∧ f ∈ part) ∨
      ∃ run, r.check = .tokens run ∧ f.code = r.code ∧ ∃ t ∈ view.templates, f.file = t.path := by
  unfold sourceFailures at h
  -- failures are found on the chart as a whole first, then on each template's tokens
  obtain ⟨whole, hwhole, h⟩ := bind_eq_ok_iff.mp h
  obtain ⟨streamed, hstreamed, h⟩ := bind_eq_ok_iff.mp h
  rw [← Except.ok.inj h] at hf
  rcases List.mem_append.mp hf with hf | hf
  · obtain ⟨parts, hparts, hwhole⟩ := bind_eq_ok_iff.mp hwhole
    rw [← Except.ok.inj hwhole] at hf
    obtain ⟨part, hpart, hf⟩ := List.mem_flatten.mp hf
    obtain ⟨r, hr, hrun⟩ := exists_of_mem_right (mapM_eq_ok_iff.mp hparts) hpart
    split at hrun
    next check hcheck =>
      split at hrun
      next => exact ⟨r, hr, .inl ⟨check, part, hcheck, hrun, hf⟩⟩
      next =>
        cases hrun
        cases hf
    next =>
      cases hrun
      cases hf
  · obtain ⟨ofTemplate, hmem, hf⟩ := List.mem_flatten.mp hf
    obtain ⟨t, ht, hfailures⟩ := exists_of_mem_right (mapM_eq_ok_iff.mp hstreamed) hmem
    obtain ⟨parts, hparts, hfailures⟩ := bind_eq_ok_iff.mp hfailures
    rw [← Except.ok.inj hfailures] at hf
    obtain ⟨part, hpart, hf⟩ := List.mem_flatten.mp hf
    obtain ⟨r, hr, hrun⟩ := exists_of_mem_right (mapM_eq_ok_iff.mp hparts) hpart
    split at hrun
    next run hcheck =>
      split at hrun
      next =>
        split at hrun
        next trace htrace =>
          cases hrun
          obtain ⟨note, -, rfl⟩ := List.mem_map.mp hf
          exact ⟨r, hr, .inr ⟨run, hcheck, rfl, t, ht, rfl⟩⟩
        next => cases hrun
      next =>
        cases hrun
        cases hf
    next =>
      cases hrun
      cases hf

/-- The rules are bundled ones. -/
def IsBundled (l : Linter) : Prop :=
  ∀ r ∈ l.catalogue.rules, r ∈ Catalogue.bundled.rules

/-- Bundled rules blame what they see. -/
theorem mayBlame_of_mem_sourceFailures (hrules : l.IsBundled) {view : View} (hview : view.IsRead)
    {found : List Failure} {f : Failure} (h : l.sourceFailures view = .ok found)
    (hf : f ∈ found) : view.MayBlame f.file := by
  obtain ⟨r, hr, hrule⟩ := exists_rule_of_mem_sourceFailures h hf
  rcases hrule with ⟨check, part, hcheck, hpart, hf⟩ | ⟨run, -, -, t, ht, hfile⟩
  · have hbundled := Catalogue.mem_chart_bundledRules (hrules r hr) (by rw [hcheck]; rfl)
    have hblames := bundledRules_blamesRightly r hbundled
    rw [hcheck] at hblames
    exact hblames _ _ view part hview hpart f hf
  · rw [hfile]
    exact .checked (hview.templates t ht)

/-- A file that is there is not reported as missing. -/
theorem code_ne_of_hasFile (hrules : l.IsBundled) {view : View} {e : String × String}
    (he : e ∈ requiredFiles) (hfile : view.hasFile e.1 = true) {found : List Failure} {f : Failure}
    (h : l.sourceFailures view = .ok found) (hf : f ∈ found) : f.code ≠ e.2 := by
  intro hcode
  obtain ⟨r, hr, hrule⟩ := exists_rule_of_mem_sourceFailures h hf
  rcases hrule with ⟨check, part, hcheck, hpart, hf⟩ | ⟨run, hcheck, hown, -⟩
  · have hown := Catalogue.bundled_reportsOwnCodes r (hrules r hr) f (.ofChart hcheck hpart hf)
    obtain ⟨find, hfind, hnone⟩ := check_eq_always_of_code (hrules r hr) he (hown.symm.trans hcode)
    rw [hcheck] at hfind
    cases hfind
    dsimp only at hpart
    rw [hnone view hfile] at hpart
    cases hpart
    cases hf
  · obtain ⟨find, hfind, -⟩ := check_eq_always_of_code (hrules r hr) he (hown.symm.trans hcode)
    rw [hcheck] at hfind
    cases hfind

/-- A failure in the report on a chart is one that a rule made, in the same file and under
the same code. -/
theorem exists_of_mem_lintTree {root : Path} {chart : FileNode} {r : Report}
    (h : l.lintTree root chart = .ok r) {f : Failure} (hf : f ∈ r.failures) :
    ∃ c found f₀, readSource l.settings root chart = .ok c ∧ l.sourceFailures c.view = .ok found ∧
      f₀ ∈ found ∧ f.file = f₀.file ∧ f.code = f₀.code := by
  unfold lintTree at h
  split at h
  next => cases h
  next c hread =>
    have h := mapError_eq_ok_iff.mp h
    by_cases hoff : c.widePragmas.disabled = true
    · rw [lintSource_of_disabled hoff] at h
      cases h
      cases hf
    · obtain ⟨found, hfound, rfl⟩ := (lintSource_eq_ok_iff hoff).mp h
      obtain ⟨f₀, hf₀, -, hreported⟩ := mem_reported.mp (List.mem_mergeSort.mp hf)
      obtain ⟨-, -, -, rfl⟩ := Settings.reported?_eq_some_iff.mp hreported
      exact ⟨c, found, f₀, hread, hfound, hf₀, rfl, rfl⟩

/-- Only a directory has failures. -/
theorem lintTree_of_mem_failures {w : Workspace} {root : Path} {t : FileNode} {r : Report}
    (hfind : w.find root = .ok t) (h : l.lintChart w root = .ok r) {f : Failure}
    (hf : f ∈ r.failures) : (∃ entries, t = .directory entries) ∧ l.lintTree root t = .ok r := by
  cases t with
  | directory entries =>
    rw [lintChart_of_directory hfind] at h
    exact ⟨⟨entries, rfl⟩, h⟩
  | file | link =>
    unfold lintChart at h
    rw [hfind] at h
    cases h
    cases hf

/-! ## Reports -/

/-- Charts that are read alike are reported alike. -/
theorem lintChart_congr {w₁ w₂ : Workspace} {root : Path} {t₁ t₂ : FileNode} {leftOut : Bool}
    (hfind₁ : w₁.find root = .ok t₁) (hfind₂ : w₂.find root = .ok t₂)
    (hkind : FileNode.AgreesUnless leftOut t₁ t₂)
    (hread : readSource l.settings root t₁ = readSource l.settings root t₂) :
    l.lintChart w₁ root = l.lintChart w₂ root := by
  unfold lintChart
  rw [hfind₁, hfind₂]
  cases t₁ with
  | file =>
    cases t₂ with
    | file => rfl
    | link | directory => exact hkind.elim
  | link =>
    cases t₂ with
    | link => rfl
    | file | directory => exact hkind.elim
  | directory =>
    cases t₂ with
    | file | link => exact hkind.elim
    | directory =>
      dsimp only
      unfold lintTree
      rw [hread]

/-- **Files that are left out do not show.** Two charts that agree in all but what files
hold that the settings leave out have the same report, or stop at the same error. No
failure of it is in a file that is left out. And where the chart owns a file of a name
that a rule asks for, the rule does not miss it, also if the file is left out. -/
theorem lintChart_isolates_excluded (l : Linter) (w₁ w₂ : Workspace) (root : Path)
    (t₁ t₂ : FileNode) (hfind₁ : w₁.find root = .ok t₁) (hfind₂ : w₂.find root = .ok t₂)
    (hproper₁ : t₁.isProper = true) (hproper₂ : t₂.isProper = true)
    (hagree : ∀ path, Option.Rel (FileNode.AgreesUnless (leavesOut l.settings root path))
      (t₁.nodeAt? path) (t₂.nodeAt? path)) :
    l.lintChart w₁ root = l.lintChart w₂ root ∧
    (l.IsBundled → ∀ r, l.lintChart w₁ root = .ok r →
      ∀ path bytes, t₁.nodeAt? path = some (.file bytes) →
        leavesOut l.settings root path = true →
        (∀ f ∈ r.failures, f.file ≠ joinWith "/" path) ∧
        ∀ e ∈ requiredFiles, path.getLast? = some e.1 →
          path.dropLast.any skippedDirectories.contains = false →
          ∀ f ∈ r.failures, f.code ≠ e.2) := by
  constructor
  · obtain ⟨hkept, hnames⟩ := files_of_agreesUnless hproper₁ hproper₂ hagree
    have hroot := hagree []
    rw [FileNode.nodeAt?, FileNode.nodeAt?] at hroot
    cases hroot with
    | some hkind => exact lintChart_congr hfind₁ hfind₂ hkind (readSource_congr hkept hnames)
  · intro hrules r hr path bytes hfile hout
    -- a failure shows that the chart was read, and that its root is no file
    have hsource : ∀ f ∈ r.failures, path ≠ [] ∧ ∃ c found f₀,
        readSource l.settings root t₁ = .ok c ∧ l.sourceFailures c.view = .ok found ∧
        f₀ ∈ found ∧ f.file = f₀.file ∧ f.code = f₀.code := by
      intro f hf
      obtain ⟨⟨entries, rfl⟩, htree⟩ := lintTree_of_mem_failures hfind₁ hr hf
      refine ⟨?_, exists_of_mem_lintTree htree hf⟩
      rintro rfl
      cases hfile
    constructor
    · intro f hf heq
      obtain ⟨hne, c, found, f₀, hread, hfound, hf₀, hsame, -⟩ := hsource f hf
      have hblame := mayBlame_of_mem_sourceFailures hrules (isRead_of_readSource hread) hfound hf₀
      rw [← hsame, heq] at hblame
      exact not_mayBlame_of_leavesOut hproper₁ hread hne hfile hout hblame
    · intro e he hlast hskipped f hf
      obtain ⟨hne, c, found, f₀, hread, hfound, hf₀, -, hcode⟩ := hsource f hf
      have hown : ⟨path, bytes⟩ ∈ ownFiles t₁ :=
        (mem_ownFiles_iff hproper₁).mpr ⟨hne, hfile, hskipped⟩
      rw [hcode]
      exact code_ne_of_hasFile hrules he (hasFile_of_mem_ownFiles hread hown hlast) hfound hf₀

end Linter

/-- A chart with the values that are given. -/
def Chart.withValues (values : String) : FileNode :=
  .directory [("Chart.yaml", .file "name: web".toUTF8.toList),
    ("templates", .directory [("NOTES.txt", .file "x".toUTF8.toList),
      ("pod.yaml", .file "privileged: true".toUTF8.toList)]),
    ("values.yaml", .file values.toUTF8.toList)]

theorem Chart.contents_withValues (values : String) :
    (withValues values).contents = (withValues values).walk [] := by
  have hpaths : [["Chart.yaml"], ["templates"], ["templates", "NOTES.txt"],
      ["templates", "pod.yaml"], ["values.yaml"]].Pairwise
        fun a b => Path.notAfter a b = true := by
    decide +kernel
  have hwalk : (((withValues values).walk []).map Prod.fst).Pairwise
      fun a b => Path.notAfter a b = true := hpaths
  rw [List.pairwise_map] at hwalk
  exact List.mergeSort_of_pairwise hwalk

/-- The charts agree if their values are left out. -/
theorem Chart.agreesUnless_withValues {leftOut : List String → Bool}
    (h : leftOut ["values.yaml"] = true) (values values' : String) (path : List String) :
    Option.Rel (FileNode.AgreesUnless (leftOut path))
      ((withValues values).nodeAt? path) ((withValues values').nodeAt? path) := by
  cases path with
  | nil => exact .some trivial
  | cons name path =>
    by_cases hname : name = "values.yaml"
    · subst hname
      cases path with
      | nil => exact .some (.inl h)
      | cons => exact .none
    · have hsame : (withValues values).nodeAt? (name :: path) =
          (withValues values').nodeAt? (name :: path) := by
        unfold withValues
        simp only [FileNode.nodeAt?, List.lookup_cons, beq_false_of_ne hname]
      rw [hsame]
      cases (withValues values').nodeAt? (name :: path) with
      | none => exact .none
      | some node => exact .some (FileNode.agreesUnless_refl _ node)

/-- What values hold that are left out does not matter, even if it cannot be read; and
they are not missed. -/
theorem Linter.lintChart_isolates_excluded_values :
    let l : Linter := ⟨Catalogue.bundled.subset ["HL1001", "HL1011", "HL2007", "HL4002"],
      { exclude := ["values.yaml"] }⟩
    let w := fun values => (⟨.ofText "/", [], Chart.withValues values⟩ : Workspace)
    ∃ r, l.lintChart (w "image: \x7btag: latest\x7d") (.ofText "/") = .ok r ∧
      l.lintChart (w "]") (.ofText "/") = .ok r ∧
      r.failures.map (fun f => (f.code, f.file)) = [("HL4002", "templates/pod.yaml")] ∧
      (∀ f ∈ r.failures, f.file ≠ "values.yaml") ∧ ∀ f ∈ r.failures, f.code ≠ "HL1011" := by
  intro l w
  have hcodes : (l.lintTree (.ofText "/") (Chart.withValues "]")).map
      (fun r => r.failures.map fun f => (f.code, f.file)) =
      .ok [("HL4002", "templates/pod.yaml")] := by
    simp only [l, lintTree, lintSource, conclude, Report.sort, Failure.sorted_eq_insertionSort,
      Chart.readSource, Chart.ownFiles, Chart.contents_withValues]
    decide +kernel
  obtain ⟨r, hr, hcodes⟩ := map_eq_ok_iff.mp hcodes
  have hbundled : l.IsBundled := by
    intro r hr
    exact (List.mem_filter.mp hr).1
  have hr : l.lintChart (w "]") (.ofText "/") = .ok r := hr
  have hisolates := lintChart_isolates_excluded l (w "]") (w "image: \x7btag: latest\x7d")
    (.ofText "/") (Chart.withValues "]") (Chart.withValues "image: \x7btag: latest\x7d") rfl rfl
    (by decide +kernel) (by decide +kernel)
    (Chart.agreesUnless_withValues (by decide +kernel) _ _)
  obtain ⟨hfiles, hnames⟩ := hisolates.2 hbundled r hr ["values.yaml"] _ rfl (by decide +kernel)
  refine ⟨r, hisolates.1 ▸ hr, hr, hcodes, hfiles, ?_⟩
  exact hnames (Chart.valuesFile, "HL1011") (by decide) rfl (by decide)

end ContainerLint
