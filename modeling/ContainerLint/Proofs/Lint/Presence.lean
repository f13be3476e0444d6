/-
Files that a chart must have.

Two rules report a chart without a description and a chart without values. Each looks for a file
of a name among all the files that the chart owns, and takes one in a directory below for the
missing one, although only the file at the root is ever read. So a chart is reported exactly if
no directory of its own holds a file of that name, the root being one of them
(`missingFile_reported`). Where no directory below the root holds one, the root alone decides.

Links and directories of the name are no such files, nor is what lies in a directory that belongs
to others. A file that settings leave out is one, and so is one that cannot be read.
-/
import ContainerLint.Proofs.Lint.NextLine

namespace ContainerLint

open ContainerLint.Text

namespace Chart

/-! ## Files of a name -/

/-- The chart owns a file of a name in a directory, which is given by the names that lead to it. -/
structure OwnsAt (chart : FileNode) (directory : List String) (name : String) : Prop where
  isFile : ∃ bytes, chart.nodeAt? (directory ++ [name]) = some (.file bytes)
  isOwn : ∀ outer ∈ directory, outer ∉ skippedDirectories

theorem any_skippedDirectories_eq_false_iff {directory : List String} :
    directory.any skippedDirectories.contains = false ↔
      ∀ outer ∈ directory, outer ∉ skippedDirectories := by
  simp only [List.any_eq_false, List.contains_iff_mem]

/-- A file of this name is anywhere in the chart but in directories to skip. -/
theorem exists_mem_ownFiles_iff {chart : FileNode} (hproper : chart.isProper = true)
    {name : String} :
    (∃ f ∈ ownFiles chart, f.parts.getLast? = some name) ↔
      ∃ directory, OwnsAt chart directory name := by
  constructor
  · rintro ⟨f, hf, hlast⟩
    obtain ⟨directory, hparts⟩ := List.getLast?_eq_some_iff.mp hlast
    obtain ⟨-, hnode, hskipped⟩ := (mem_ownFiles_iff hproper).mp hf
    rw [hparts] at hnode hskipped
    rw [List.dropLast_concat] at hskipped
    exact ⟨directory, ⟨f.bytes, hnode⟩, any_skippedDirectories_eq_false_iff.mp hskipped⟩
  · rintro ⟨directory, ⟨bytes, hnode⟩, hown⟩
    refine ⟨⟨directory ++ [name], bytes⟩, ?_, List.getLast?_concat⟩
    refine (mem_ownFiles_iff hproper).mpr ⟨by simp, hnode, ?_⟩
    rw [List.dropLast_concat]
    exact any_skippedDirectories_eq_false_iff.mpr hown

section Reading

variable {s : Settings} {root : Path} {chart : FileNode} {c : Source}

/-- What is there is what the chart owns. -/
theorem exists_of_mem_present (h : readSource s root chart = .ok c) {file : String}
    (hfile : file ∈ c.view.present) : ∃ f ∈ ownFiles chart, f.name = file := by
  rcases List.mem_append.mp hfile with hfile | hfile
  · obtain ⟨f, hf, -, hname⟩ := exists_of_mem_files h hfile
    exact ⟨f, hf, hname⟩
  · obtain ⟨metadata, values, templates, -, -, -, rfl⟩ := readSource_eq_ok_iff.mp h
    obtain ⟨f, hf, hname⟩ := List.mem_map.mp hfile
    exact ⟨f, (List.mem_filter.mp hf).1, hname⟩

/-- A path that is a name, or ends in a slash and the name, leads to something of that name. -/
theorem getLast?_parts_of_name (hproper : chart.isProper = true) {f : SourceFile}
    (hf : f ∈ ownFiles chart) {name : String} (hslash : '/' ∉ name.toList)
    (h : f.name = name ∨ endsWith f.name ("/" ++ name) = true) :
    f.parts.getLast? = some name := by
  obtain ⟨hne, hnode, -⟩ := (mem_ownFiles_iff hproper).mp hf
  have hnames := (FileNode.of_nodeAt?_of_isProper hproper hnode).1
  have hsplit : splitAtChar '/' f.name.toList = f.parts.map String.toList :=
    splitAtChar_joinWith hnames hne
  -- the name has no slash in it, so that it is the last piece between slashes
  have hlast : (splitAtChar '/' f.name.toList).getLast? = some name.toList := by
    rcases h with h | h
    · rw [h, splitAtChar_eq_singleton hslash]
      rfl
    · obtain ⟨front, hfront⟩ := List.isSuffixOf_iff_suffix.mp h
      have hfront : front ++ '/' :: name.toList = f.name.toList := by
        rw [← hfront, String.toList_append]
        rfl
      rw [← hfront, splitAtChar_append_cons, splitAtChar_eq_singleton hslash,
        List.getLast?_concat]
  rw [hsplit, List.getLast?_map] at hlast
  obtain ⟨last, hlast, heq⟩ := Option.map_eq_some_iff.mp hlast
  rw [hlast, String.toList_inj.mp heq]

/-- **A file of a name is there** if some directory of the chart holds one. -/
theorem hasFile_iff (hproper : chart.isProper = true) (h : readSource s root chart = .ok c)
    {name : String} (hslash : '/' ∉ name.toList) :
    c.view.hasFile name = true ↔ ∃ directory, OwnsAt chart directory name := by
  rw [← exists_mem_ownFiles_iff hproper]
  constructor
  · intro hhas
    obtain ⟨file, hfile, hname⟩ := List.any_eq_true.mp hhas
    rw [Bool.or_eq_true, beq_iff_eq] at hname
    obtain ⟨f, hf, rfl⟩ := exists_of_mem_present h hfile
    exact ⟨f, hf, getLast?_parts_of_name hproper hf hslash hname⟩
  · rintro ⟨f, hf, hlast⟩
    exact hasFile_of_mem_ownFiles h hf hlast

/-! ## Pragmas and files that are not there -/

/-- Pragmas that are not heeded switch no chart off. -/
theorem not_disabled_of_readSource (h : readSource s root chart = .ok c)
    (hon : s.ignorePragmas = false → ∀ e ∈ filePragmas s root chart, e.2.disabled = false) :
    ¬ c.widePragmas.disabled = true := by
  rw [Source.disabled_widePragmas]
  rintro ⟨e, he, hoff⟩
  cases hs : s.ignorePragmas with
  | false =>
    rw [pragmas_of_readSource hs h] at he
    rw [hon hs e he] at hoff
    cases hoff
  | true =>
    rw [readSource_heededBy (s := s) root
      (rfl : (s.withPragmas true).ignorePragmas = false) rfl] at h
    obtain ⟨c₀, -, rfl⟩ := map_eq_ok_iff.mp h
    obtain ⟨e₀, -, rfl⟩ := List.mem_map.mp he
    dsimp only [Settings.heeded] at hoff
    rw [if_pos hs] at hoff
    cases hoff

/-- **A failure in a file that is not there** is off only if its code is off in the whole chart. -/
theorem not_heeds_of_absent (h : readSource s root chart = .ok c) {f : Failure}
    (habsent : ¬ c.view.hasFile f.file = true)
    (hon : s.ignorePragmas = false →
      ∀ e ∈ filePragmas s root chart, e.2.disabled = false ∧ f.code ∉ e.2.fileCodes) :
    s.heeds (c.pragmasFor f) f = false := by
  unfold Settings.heeds
  cases hs : s.ignorePragmas with
  | true => rfl
  | false =>
    have hfiles := pragmas_of_readSource hs h
    have hignores : (c.pragmasFor f).ignores f.code f.line = suppresses c.pragmas f :=
      Source.ignores_pragmasFor_eq (fun e he => ofChart_of_mem_filePragmas (hfiles ▸ he))
        (fun e he => (hon hs e (hfiles ▸ he)).1) f
    rw [hignores, Bool.not_false, Bool.true_and, hfiles, Bool.eq_false_iff, ne_eq, suppresses_iff]
    rintro (⟨e, he, hcode⟩ | ⟨p, hp, -⟩)
    · exact (hon hs e he).2 hcode
    · -- pragmas on lines are those of a file of the same name, which would be there
      obtain ⟨g, hg, hgown⟩ := List.mem_filterMap.mp (Source.mem_of_lookup hp)
      have hthere := mem_present_of_readSource h (mem_ownFiles_of_mem_lintedFiles hg)
      rw [name_of_ownPragmas? hgown] at hthere
      exact habsent (View.hasFile_of_mem hthere (.inl rfl))

end Reading

/-! ## The rules -/

/-- A rule on a file that must be there: its code and severity, the name of the file, and what it
says. -/
structure PresenceRule where
  code : String
  severity : Severity
  file : String
  message : String

/-- The rules on files that must be at the root. -/
def presenceRules : List PresenceRule := [
  ⟨"HL1001", .error, chartFile, "Missing Chart.yaml file"⟩,
  ⟨"HL1011", .warning, valuesFile, "Missing values.yaml file"⟩]

/-- The failure that the rule makes of a file that is missing. -/
def PresenceRule.made (p : PresenceRule) : Failure :=
  { code := p.code, severity := p.severity, message := p.message, file := p.file, line := 1 }

/-- The failure as settings report it. -/
def PresenceRule.failure (p : PresenceRule) (s : Settings) : Failure :=
  p.made.withSeverity (s.severityOf p.code p.severity)

theorem slash_not_mem_of_mem_presenceRules : ∀ p ∈ presenceRules, '/' ∉ p.file.toList := by
  unfold presenceRules
  simp only [List.forall_mem_cons, List.not_mem_nil, false_imp_iff, implies_true, and_true]
  exact ⟨by decide, by decide⟩

/-- What was read of a file shows that the file is there. -/
theorem isNone_and_not_hasFile {α : Type} {contents : Option α} {v : View} {name : String}
    (h : ∀ a, contents = some a → name ∈ v.files) :
    (contents.isNone && !v.hasFile name) = !v.hasFile name := by
  cases contents with
  | none => exact Bool.true_and _
  | some a =>
    rw [View.hasFile_of_mem (List.mem_append_left _ (h a rfl)) (.inl rfl)]
    rfl

/-- Each of the rules on missing files looks for its file by name. -/
theorem exists_presenceRule : ∀ p ∈ presenceRules, ∃ r ∈ bundledRules,
    r.code = p.code ∧ r.severity = p.severity ∧ r.fixable = false ∧ ∃ find,
      r.check = always find ∧ ∀ v : View, v.IsRead →
        find v = findIf (!v.hasFile p.file) ⟨p.message, p.file, 1⟩ := by
  unfold presenceRules
  simp only [List.forall_mem_cons, List.not_mem_nil, false_imp_iff, implies_true, and_true]
  constructor
  · refine ⟨_, List.mem_of_getElem? (i := 0) rfl, rfl, rfl, rfl, _, rfl, fun v hv => ?_⟩
    rw [missingChartFile, isNone_and_not_hasFile hv.metadata]
    rfl
  · refine ⟨_, List.mem_of_getElem? (i := 9) rfl, rfl, rfl, rfl, _, rfl, fun v hv => ?_⟩
    rw [missingValuesFile, isNone_and_not_hasFile hv.values]

end Chart

namespace Linter

open ContainerLint.Chart

variable {l : Linter}

/-! ## One rule by itself -/

/-- The code of a rule asks for that rule alone. -/
theorem rules_narrow_of_mem {rule : Rule} (h : rule ∈ l.catalogue.rules) :
    (l.narrow [rule.code]).catalogue.rules = [rule] := by
  obtain ⟨front, back, hsplit⟩ := List.append_of_mem h
  have hnodup := l.catalogue.nodup
  rw [hsplit, List.map_append, List.map_cons, List.nodup_middle, List.nodup_cons] at hnodup
  have hothers : ∀ r ∈ front ++ back, ¬ [rule.code].contains r.code = true := by
    intro r hr hcode
    rw [List.contains_iff_mem, List.mem_singleton] at hcode
    exact hnodup.1 (List.map_append ▸ hcode ▸ List.mem_map_of_mem hr)
  show l.catalogue.rules.filter (fun r => [rule.code].contains r.code) = [rule]
  rw [hsplit, List.filter_append, List.filter_cons_of_pos (by simp)]
  rw [List.filter_eq_nil_iff.mpr fun r hr => hothers r (List.mem_append_left back hr),
    List.filter_eq_nil_iff.mpr fun r hr => hothers r (List.mem_append_right front hr)]
  rfl

/-- **What a linter with one rule for whole charts finds in a chart.** -/
theorem sourceFailures_of_rules {rule : Rule}
    {check : RuleInfo → RuleOptions → View → Except RuleError (List Failure)} {view : View}
    {found : List Failure} (hrules : l.catalogue.rules = [rule])
    (hcheck : rule.check = .chart check) (hactive : l.isActive rule = true)
    (hrun : check rule.toRuleInfo (l.optionsOf rule) view = .ok found) :
    l.sourceFailures view = .ok found := by
  have hwhole : l.chartFailures view = .ok found := by
    unfold chartFailures
    rw [hrules]
    refine bind_eq_ok_iff.mpr ⟨[found], mapM_eq_ok_iff.mpr (.cons ?_ .nil),
      congrArg Except.ok List.flatten_singleton⟩
    rw [hcheck]
    dsimp only
    rw [if_pos hactive, hrun]
  -- the only rule there is does not run on tokens
  have htemplate : ∀ t : Template.Document, l.templateFailures t = .ok [] := by
    intro t
    unfold templateFailures
    rw [hrules]
    refine bind_eq_ok_iff.mpr ⟨[[]], mapM_eq_ok_iff.mpr (.cons ?_ .nil), rfl⟩
    rw [hcheck]
  have hstreamed : view.templates.mapM l.templateFailures =
      .ok (view.templates.map fun _ => []) := by
    rw [mapM_eq_ok_iff, List.forall₂_map_right_iff, List.forall₂_same]
    exact fun t _ => htemplate t
  refine bind_eq_ok_iff.mpr ⟨found, hwhole, bind_eq_ok_iff.mpr ⟨_, hstreamed, ?_⟩⟩
  have hnone : (view.templates.map fun _ => ([] : List Failure)).flatten = [] := by
    rw [List.flatten_eq_nil_iff]
    intro part hpart
    exact (List.mem_map.mp hpart).elim fun _ h => h.2.symm
  show Except.ok (found ++ _) = _
  rw [hnone, List.append_nil]

/-! ## Reports -/

/-- The linter has a rule on a file that must be there, and its settings let the rule's failure
through. -/
structure LetsThrough (l : Linter) (p : PresenceRule) : Prop where
  bundled : l.IsBundled
  hasRule : p.code ∈ l.catalogue.codes
  notDisabled : l.settings.disables p.code = false
  admits : l.settings.admits (l.settings.severityOf p.code p.severity) = true
  notFixableOnly : l.settings.fixableOnly = false

section Report

variable {p : PresenceRule} {root : Path} {chart : FileNode} {c : Source}

/-- Alone, such a rule finds one failure or none. -/
theorem sourceFailures_narrow_of_presence (hp : p ∈ presenceRules) (hl : l.LetsThrough p)
    (hview : c.view.IsRead) :
    (l.narrow [p.code]).sourceFailures c.view =
      .ok (if c.view.hasFile p.file then [] else [p.made]) := by
  obtain ⟨rule, hrule, hcode⟩ := List.mem_map.mp hl.hasRule
  obtain ⟨rule', hrule', hcode', hseverity, hfixable, find, hcheck, hfind⟩ :=
    exists_presenceRule p hp
  -- codes are different, so the linter's rule is the bundled one
  obtain rfl : rule = rule' := List.inj_on_of_nodup_map Catalogue.bundled.nodup
    (hl.bundled rule hrule) (List.mem_append_right _ hrule') (hcode.trans hcode'.symm)
  have hrules := rules_narrow_of_mem hrule
  have hactive : (l.narrow [rule.code]).isActive rule = true := by
    rw [isActive, hcode]
    exact congrArg not hl.notDisabled
  rw [← hcode]
  refine sourceFailures_of_rules hrules hcheck hactive (congrArg Except.ok ?_)
  rw [hfind _ hview]
  unfold findIf
  cases c.view.hasFile p.file with
  | true => rfl
  | false =>
    simp only [failuresOf, Bool.not_false, if_true, Bool.false_eq_true, if_false, List.map_cons,
      List.map_nil, RuleInfo.failureAt, RuleInfo.failure, PresenceRule.made, hcode, hseverity, hfixable]
    rfl

/-- **A missing file is reported once**, and a file that is there is not. -/
theorem only_failures_of_presence (hp : p ∈ presenceRules) (hl : l.LetsThrough p)
    (hread : readSource l.settings root chart = .ok c)
    (hpragmas : l.settings.ignorePragmas = false → ∀ e ∈ filePragmas l.settings root chart,
      e.2.disabled = false ∧ p.code ∉ e.2.fileCodes)
    {r : Report} (h : l.lintTree root chart = .ok r) :
    Failure.only [p.code] r.failures =
      if c.view.hasFile p.file then [] else [p.failure l.settings] := by
  have hown : l.catalogue.ReportsOwnCodes :=
    fun rule hrule => Catalogue.bundled_reportsOwnCodes rule (hl.bundled rule hrule)
  -- the report's failures under this code are those of a linter that has only this rule
  have hnarrow : (l.narrow [p.code]).lintTree root chart = .ok (r.only [p.code]) :=
    lintTree_narrow hown h
  unfold lintTree at hnarrow
  rw [narrow_settings, hread] at hnarrow
  have hon : ¬ c.widePragmas.disabled = true :=
    not_disabled_of_readSource hread fun hs e he => (hpragmas hs e he).1
  obtain ⟨found, hfound, hconclude⟩ :=
    (lintSource_eq_ok_iff hon).mp (mapError_eq_ok_iff.mp hnarrow)
  rw [sourceFailures_narrow_of_presence hp hl (isRead_of_readSource hread)] at hfound
  have hfailures : Failure.sorted ((l.narrow [p.code]).reported c.pragmasFor found) =
      Failure.only [p.code] r.failures := congrArg Report.failures hconclude
  rw [← hfailures, ← Except.ok.inj hfound]
  by_cases hhas : c.view.hasFile p.file = true
  · rw [if_pos hhas, if_pos hhas]
    exact List.mergeSort_nil
  · rw [if_neg hhas, if_neg hhas]
    have hheeds := not_heeds_of_absent (f := p.made) hread hhas hpragmas
    have hreported : l.settings.reported? p.made = some (p.failure l.settings) :=
      Settings.reported?_eq_some_iff.mpr ⟨hl.notDisabled, hl.admits,
        fun hfix => absurd (hl.notFixableOnly ▸ hfix) Bool.false_ne_true, rfl⟩
    have hsingle : (l.narrow [p.code]).reported c.pragmasFor [p.made] =
        [p.failure l.settings] := by
      unfold reported
      rw [List.filterMap_cons, narrow_settings, hheeds, if_neg Bool.false_ne_true, hreported]
      rfl
    rw [hsingle]
    exact List.mergeSort_singleton _

end Report

/-- **Missing files.** Take a rule on a file that must be there, which the linter has and lets
through, and a chart whose pragmas do not switch it off. If the chart owns a file of the name in
any directory, the rule reports nothing. If it owns none, the rule reports the file once. So where
no directory below the root holds a file of the name, it is reported exactly if the root holds
none. -/
theorem missingFile_reported {l : Linter} {p : PresenceRule} (hp : p ∈ presenceRules)
    (hl : l.LetsThrough p) {w : Workspace} {root : Path} {entries : List (String × FileNode)}
    (hfind : w.find root = .ok (.directory entries))
    (hproper : (FileNode.directory entries).isProper = true)
    (hpragmas : l.settings.ignorePragmas = false →
      ∀ e ∈ filePragmas l.settings root (.directory entries),
        e.2.disabled = false ∧ p.code ∉ e.2.fileCodes)
    {r : Report} (h : l.lintChart w root = .ok r) :
    ((∃ directory, OwnsAt (.directory entries) directory p.file) →
      Failure.only [p.code] r.failures = []) ∧
    ((∀ directory, ¬ OwnsAt (.directory entries) directory p.file) →
      Failure.only [p.code] r.failures = [p.failure l.settings]) ∧
    ((∀ directory, directory ≠ [] → ¬ OwnsAt (.directory entries) directory p.file) →
      ((∃ f ∈ r.failures, f.code = p.code) ↔ ¬ OwnsAt (.directory entries) [] p.file)) := by
  rw [lintChart_of_directory hfind] at h
  cases hread : readSource l.settings root (.directory entries) with
  | error e =>
    unfold lintTree at h
    rw [hread] at h
    cases h
  | ok c =>
    have honly := only_failures_of_presence hp hl hread hpragmas h
    have hhas := hasFile_iff hproper hread (slash_not_mem_of_mem_presenceRules p hp)
    have howned : (∃ directory, OwnsAt (.directory entries) directory p.file) →
        Failure.only [p.code] r.failures = [] := by
      intro hown
      rw [honly, if_pos (hhas.mpr hown)]
    have hmissing : (∀ directory, ¬ OwnsAt (.directory entries) directory p.file) →
        Failure.only [p.code] r.failures = [p.failure l.settings] := by
      intro hnone
      rw [honly, if_neg fun htrue => (hhas.mp htrue).elim hnone]
    -- if the file is nowhere below the root, to be missing is to be missing there
    refine ⟨howned, hmissing, fun hbelow => ⟨?_, ?_⟩⟩
    · rintro ⟨f, hf, hcode⟩ hroot
      have hmem : f ∈ Failure.only [p.code] r.failures :=
        List.mem_filter.mpr ⟨hf, by rw [hcode]; exact List.contains_iff_mem.mpr (.head _)⟩
      rw [howned ⟨[], hroot⟩] at hmem
      cases hmem
    · intro hroot
      have hnone : ∀ directory, ¬ OwnsAt (.directory entries) directory p.file := by
        intro directory
        by_cases hdirectory : directory = []
        · rwa [hdirectory]
        · exact hbelow directory hdirectory
      have hmem : p.failure l.settings ∈ Failure.only [p.code] r.failures := by
        rw [hmissing hnone]
        exact List.mem_singleton_self _
      exact ⟨_, (List.mem_filter.mp hmem).1, rfl⟩

end Linter

/-- A chart with a link of the name at its root, and a file of it in a directory that belongs to
others. -/
def Chart.withLink : FileNode :=
  .directory [("Chart.yaml", .link "charts/Chart.yaml"),
    ("charts", .directory [("Chart.yaml", .file [])])]

theorem Chart.contents_withLink : withLink.contents = withLink.walk [] :=
  List.mergeSort_of_pairwise (by decide +kernel)

/-- A link in a file's place is no file. -/
theorem Chart.not_ownsAt_withLink (directory : List String) :
    ¬ OwnsAt withLink directory chartFile := by
  rintro ⟨⟨bytes, hnode⟩, hown⟩
  cases directory with
  | nil => cases hnode
  | cons outer directory =>
    by_cases hcharts : outer = "charts"
    · exact hown outer List.mem_cons_self (hcharts ▸ by decide)
    · by_cases hlink : outer = "Chart.yaml"
      · subst hlink
        cases directory <;> cases hnode
      · simp only [withLink, List.cons_append, FileNode.nodeAt?, List.lookup_cons,
          beq_false_of_ne hcharts, beq_false_of_ne hlink, List.lookup_nil, Option.bind_none] at hnode
        cases hnode

/-- Neither a link nor a file of others is the file that must be there. -/
theorem Linter.missingFile_reported_withLink :
    let l : Linter := ⟨Catalogue.bundled.subset ["HL1001"], {}⟩
    let p : Chart.PresenceRule :=
      ⟨"HL1001", .error, Chart.chartFile, "Missing Chart.yaml file"⟩
    (p ∈ Chart.presenceRules ∧ l.LetsThrough p ∧ Chart.withLink.isProper = true) ∧
      ∃ r, l.lintChart ⟨.ofText "/", [], Chart.withLink⟩ (.ofText "/") = .ok r ∧
        Failure.only ["HL1001"] r.failures =
          [⟨"HL1001", .error, "Missing Chart.yaml file", "Chart.yaml", 1, none, false⟩] := by
  intro l p
  have hp : p ∈ Chart.presenceRules := List.mem_cons_self
  have hl : l.LetsThrough p :=
    { bundled := fun rule hrule => (List.mem_filter.mp hrule).1
      hasRule := by decide +kernel
      notDisabled := by decide
      admits := by decide
      notFixableOnly := rfl }
  have hproper : Chart.withLink.isProper = true := by decide +kernel
  refine ⟨⟨hp, hl, hproper⟩, ?_⟩
  have hends : ((l.lintTree (.ofText "/") Chart.withLink).map fun _ => ()) = .ok () := by
    simp only [l, lintTree, lintSource, conclude, Report.sort, Failure.sorted_eq_insertionSort,
      Chart.readSource, Chart.ownFiles, Chart.contents_withLink]
    decide +kernel
  obtain ⟨r, hr, -⟩ := map_eq_ok_iff.mp hends
  have hr : l.lintChart ⟨.ofText "/", [], Chart.withLink⟩ (.ofText "/") = .ok r := hr
  have hpragmas : Chart.filePragmas {} (.ofText "/") Chart.withLink = [] := by
    simp only [Chart.filePragmas, Chart.lintedFiles, Chart.keptFiles, Chart.ownFiles,
      Chart.contents_withLink]
    decide +kernel
  have hspares : l.settings.ignorePragmas = false →
      ∀ e ∈ Chart.filePragmas l.settings (.ofText "/") Chart.withLink,
        e.2.disabled = false ∧ p.code ∉ e.2.fileCodes := by
    intro _ e he
    rw [show Chart.filePragmas l.settings (.ofText "/") Chart.withLink = [] from hpragmas] at he
    cases he
  have hfind : (⟨.ofText "/", [], Chart.withLink⟩ : Workspace).find (.ofText "/") =
      .ok Chart.withLink := rfl
  obtain ⟨-, hmissing, -⟩ := missingFile_reported hp hl hfind hproper hspares hr
  exact ⟨r, hr, hmissing Chart.not_ownsAt_withLink⟩

/-- A chart whose only description lies below its root. -/
def Chart.withNestedDescription : FileNode :=
  .directory [("sub", .directory [("Chart.yaml", .file [])])]

theorem Chart.contents_withNestedDescription :
    withNestedDescription.contents = withNestedDescription.walk [] :=
  List.mergeSort_of_pairwise (by decide +kernel)

/-- The root holds no description, and the rule that asks for one reports nothing. -/
theorem Linter.nestedDescription_hides_missing :
    Chart.withNestedDescription.nodeAt? ["Chart.yaml"] = none ∧
      ((Linter.mk (Catalogue.bundled.subset ["HL1001"]) {}).lintChart
        ⟨.ofText "/", [], Chart.withNestedDescription⟩ (.ofText "/")).map Report.failures =
        .ok [] := by
  refine ⟨rfl, ?_⟩
  have htree : ((Linter.mk (Catalogue.bundled.subset ["HL1001"]) {}).lintTree (.ofText "/")
      Chart.withNestedDescription).map Report.failures = .ok [] := by
    simp only [lintTree, lintSource, conclude, Report.sort, Failure.sorted_eq_insertionSort,
      Chart.readSource, Chart.ownFiles, Chart.contents_withNestedDescription]
    decide +kernel
  exact htree

end ContainerLint
