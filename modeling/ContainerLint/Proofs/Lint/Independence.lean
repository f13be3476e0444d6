/-
Rules do not influence each other.

A run with some of the rules finds what the run with all of them finds under the codes
of those rules, in the same order, and nothing else about the report changes but its
figures. The share of a rule in what is found depends on the rule, the settings and the
file alone; the shares stand one after the other by rule; and all that is done to the
whole afterwards, which is to heed pragmas and settings and to sort, goes failure by
failure or leaves the order of the rest alone.

A rule that goes from node to node makes notes, which the linter turns into failures
under its code. A rule that sees the whole makes its failures itself, so that it has to
be asked that they bear its code.
-/
import ContainerLint.Lint.Chart
import ContainerLint.Lint.Dockerfile
import ContainerLint.Proofs.Finding.Order
import ContainerLint.Proofs.Result

namespace ContainerLint

/-! ## Failures under some codes -/

/-- The failures under the codes that are wanted. -/
def Failure.only (wanted : List String) (fs : List Failure) : List Failure :=
  fs.filter fun f => wanted.contains f.code

/-- The report without the failures under other codes. -/
def Report.only (wanted : List String) (r : Report) : Report :=
  { r with failures := Failure.only wanted r.failures }.tally

theorem Failure.only_append (wanted : List String) (fs gs : List Failure) :
    only wanted (fs ++ gs) = only wanted fs ++ only wanted gs :=
  List.filter_append fs gs

theorem Failure.only_flatten (wanted : List String) (fss : List (List Failure)) :
    only wanted fss.flatten = (fss.map (only wanted)).flatten :=
  List.filter_flatten

section ByCode

variable {α β : Type} {wanted : List String} {code : α → String}

/-- If what each entry turns into bears the code of the entry, entries may be left out by
their codes before or after. -/
theorem filterMap_wanted {code' : β → String} {g : α → Option β}
    (hg : ∀ a b, g a = some b → code' b = code a) (entries : List α) :
    (entries.filter fun a => wanted.contains (code a)).filterMap g =
      (entries.filterMap g).filter fun b => wanted.contains (code' b) := by
  rw [List.filter_filterMap, List.filterMap_filter]
  refine congrArg (List.filterMap · entries) (funext fun a => ?_)
  cases ha : g a with
  | none => rw [Option.filter_none, ite_self]
  | some b => rw [Option.filter_some, hg a b ha]

/-- Wanting a code keeps all failures under it. -/
theorem Failure.only_eq_self {c : String} {fs : List Failure} (hc : wanted.contains c = true)
    (hfs : ∀ f ∈ fs, f.code = c) : only wanted fs = fs := by
  refine List.filter_eq_self.mpr fun f hf => ?_
  rw [hfs f hf]
  exact hc

/-- Not wanting it keeps none of them. -/
theorem Failure.only_eq_nil {c : String} {fs : List Failure} (hc : ¬ wanted.contains c = true)
    (hfs : ∀ f ∈ fs, f.code = c) : only wanted fs = [] := by
  refine List.filter_eq_nil_iff.mpr fun f hf => ?_
  rw [hfs f hf]
  exact hc

/-- **The shares of the wanted entries** are what there is under the wanted codes. -/
theorem flatMap_wanted {entries : List α} {share : α → List Failure}
    (hshare : ∀ a ∈ entries, ∀ f ∈ share a, f.code = code a) :
    (entries.filter fun a => wanted.contains (code a)).flatMap share =
      Failure.only wanted (entries.flatMap share) := by
  induction entries with
  | nil => rfl
  | cons a entries ih =>
    rw [List.forall_mem_cons] at hshare
    rw [List.flatMap_cons, Failure.only_append, ← ih hshare.2]
    by_cases ha : wanted.contains (code a) = true
    · rw [List.filter_cons, if_pos ha, List.flatMap_cons, Failure.only_eq_self ha hshare.1]
    · rw [List.filter_cons, if_neg ha, Failure.only_eq_nil ha hshare.1, List.nil_append]

/-- The same of shares that may not come about: if all of them do, those of the wanted
entries do. -/
theorem collect_wanted {ε : Type} {entries : List α} {share : α → Except ε (List Failure)}
    {fs : List Failure}
    (hshare : ∀ a ∈ entries, ∀ part, share a = .ok part → ∀ f ∈ part, f.code = code a)
    (h : (do return (← entries.mapM share).flatten) = Except.ok fs) :
    (do return (← (entries.filter fun a => wanted.contains (code a)).mapM share).flatten) =
      Except.ok (Failure.only wanted fs) := by
  obtain ⟨parts, hparts, hfs⟩ := bind_eq_ok_iff.mp h
  rw [← Except.ok.inj hfs]
  have hsteps := mapM_eq_ok_iff.mp hparts
  -- entry by entry: a wanted one gives all it finds, another gives nothing
  clear h hparts hfs
  rw [bind_eq_ok_iff]
  induction hsteps with
  | nil => exact ⟨[], rfl, rfl⟩
  | @cons a part entries parts hpart hrest ih =>
    rw [List.forall_mem_cons] at hshare
    obtain ⟨kept, hkept, hflat⟩ := ih hshare.2
    have hcode := hshare.1 part hpart
    rw [List.flatten_cons, Failure.only_append, ← Except.ok.inj hflat]
    by_cases ha : wanted.contains (code a) = true
    · refine ⟨part :: kept, ?_, ?_⟩
      · rw [List.filter_cons, if_pos ha, mapM_eq_ok_iff]
        exact .cons hpart (mapM_eq_ok_iff.mp hkept)
      · rw [Failure.only_eq_self ha hcode]
        rfl
    · refine ⟨kept, ?_, ?_⟩
      · rw [List.filter_cons, if_neg ha, hkept]
      · rw [Failure.only_eq_nil ha hcode]
        rfl

end ByCode

/-! ## Rules that report under their own codes -/

/-- Some run of a rule makes a failure. -/
inductive Rule.Makes (r : Rule) : Failure → Prop
  | ofNodes {run options nodes t note} (path : String) (hcheck : r.check = .nodes run)
      (hrun : run options nodes = .ok t) (hnote : note ∈ t.notes) :
      r.Makes (r.failure path note)
  | ofTokens {run options tokens t note} (path : String) (hcheck : r.check = .tokens run)
      (hrun : run options tokens = .ok t) (hnote : note ∈ t.notes) :
      r.Makes (r.failure path note)
  | ofBuildFile {check options path entries f} (hcheck : r.check = .buildFile check)
      (hf : f ∈ check r.toRuleInfo options path entries) : r.Makes f
  | ofChart {check options view found f} (hcheck : r.check = .chart check)
      (hrun : check r.toRuleInfo options view = .ok found) (hf : f ∈ found) : r.Makes f

/-- All failures that a rule makes bear its code. -/
def Rule.ReportsOwnCode (r : Rule) : Prop :=
  ∀ f, r.Makes f → f.code = r.code

/-- All rules of a catalogue report under their own codes. -/
def Catalogue.ReportsOwnCodes (c : Catalogue) : Prop :=
  ∀ r ∈ c.rules, r.ReportsOwnCode

/-! ### The bundled rules

A rule that goes from node to node only makes notes, and the linter puts the rule's code
on them. The rules that see the whole are made in three ways, and each of them hands the
rule's own data on to its failures. -/

/-- Rules that run from node to node report under their code, whatever they report. -/
theorem Rule.reportsOwnCode_nodes (info : RuleInfo)
    (run : RuleOptions → List (Nat × Dockerfile.Node) → Except Stop Trace) :
    Rule.ReportsOwnCode ⟨info, .nodes run⟩ := by
  intro f hf
  cases hf with
  | ofNodes => rfl
  | ofTokens path hcheck | ofBuildFile hcheck | ofChart hcheck => cases hcheck

/-- Rules that run from token to token report under their code. -/
theorem Rule.reportsOwnCode_tokens (info : RuleInfo)
    (run : RuleOptions → List (Nat × Template.Token) → Except Stop Trace) :
    Rule.ReportsOwnCode ⟨info, .tokens run⟩ := by
  intro f hf
  cases hf with
  | ofTokens => rfl
  | ofNodes path hcheck | ofBuildFile hcheck | ofChart hcheck => cases hcheck

/-- A rule on a whole file has to be asked. -/
theorem Rule.reportsOwnCode_buildFile {info : RuleInfo}
    {check : RuleInfo → RuleOptions → String → List Dockerfile.Positioned → List Failure}
    (hcode : ∀ options path entries, ∀ f ∈ check info options path entries, f.code = info.code) :
    Rule.ReportsOwnCode ⟨info, .buildFile check⟩ := by
  intro f hf
  cases hf with
  | ofBuildFile hcheck hf => cases hcheck; exact hcode _ _ _ f hf
  | ofNodes path hcheck | ofTokens path hcheck | ofChart hcheck => cases hcheck

/-- A rule on a whole chart has to be asked. -/
theorem Rule.reportsOwnCode_chart {info : RuleInfo}
    {check : RuleInfo → RuleOptions → Chart.View → Except RuleError (List Failure)}
    (hcode : ∀ options view found, check info options view = .ok found →
      ∀ f ∈ found, f.code = info.code) :
    Rule.ReportsOwnCode ⟨info, .chart check⟩ := by
  intro f hf
  cases hf with
  | ofChart hcheck hrun hf => cases hcheck; exact hcode _ _ _ hrun f hf
  | ofNodes path hcheck | ofTokens path hcheck | ofBuildFile hcheck => cases hcheck

theorem Dockerfile.reportsOwnCode_missingHealthcheck (info : RuleInfo) :
    Rule.ReportsOwnCode ⟨info, missingHealthcheck⟩ := by
  apply Rule.reportsOwnCode_buildFile
  intro options path entries f hf
  by_cases hhas : hasHealthcheck entries = true
  · rw [if_pos hhas] at hf
    cases hf
  · rw [if_neg hhas] at hf
    rw [List.mem_singleton.mp hf]
    rfl

/-- Findings become failures under the code of the rule. -/
theorem Chart.code_of_mem_failuresOf {info : RuleInfo} {findings : List Finding} {f : Failure}
    (hf : f ∈ failuresOf info findings) : f.code = info.code := by
  obtain ⟨finding, -, rfl⟩ := List.mem_map.mp hf
  rfl

theorem Chart.reportsOwnCode_always (info : RuleInfo) (find : View → List Finding) :
    Rule.ReportsOwnCode ⟨info, always find⟩ := by
  apply Rule.reportsOwnCode_chart
  intro options view found hrun f hf
  rw [← Except.ok.inj hrun] at hf
  exact code_of_mem_failuresOf hf

/-- A rule that may fail reports its findings in the same way. -/
theorem Chart.reportsOwnCode_attempt (info : RuleInfo)
    (find : View → Except RuleError (List Finding)) :
    Rule.ReportsOwnCode ⟨info, attempt find⟩ := by
  apply Rule.reportsOwnCode_chart
  intro options view found hrun f hf
  cases hfind : find view with
  | error e => rw [hfind] at hrun; cases hrun
  | ok findings =>
    rw [hfind] at hrun
    rw [← Except.ok.inj hrun] at hf
    exact code_of_mem_failuresOf hf

/-- **All bundled rules report under their own codes.** -/
theorem Catalogue.bundled_reportsOwnCodes : Catalogue.bundled.ReportsOwnCodes := by
  unfold ReportsOwnCodes bundled Dockerfile.bundledRules Chart.bundledRules
  simp only [List.cons_append, List.nil_append, List.forall_mem_cons, List.not_mem_nil,
    false_imp_iff, implies_true, and_true, Dockerfile.always, Dockerfile.follow, Chart.follow,
    Rule.reportsOwnCode_nodes, Rule.reportsOwnCode_tokens,
    Dockerfile.reportsOwnCode_missingHealthcheck, Chart.reportsOwnCode_always,
    Chart.reportsOwnCode_attempt]

/-! ## Runs with some of the rules -/

namespace Linter

/-- The linter with the wanted rules only. -/
def narrow (l : Linter) (wanted : List String) : Linter :=
  { l with catalogue := l.catalogue.subset wanted }

variable {l : Linter} {wanted : List String}

@[simp] theorem narrow_settings : (l.narrow wanted).settings = l.settings := rfl

/-- Settings may change how grave a failure is, not its code. -/
theorem code_of_reported {s : Settings} {f f' : Failure} (h : s.reported? f = some f') :
    f'.code = f.code := by
  simp only [Settings.reported?] at h
  split at h
  · cases h
  · rw [← Option.some.inj h]
    rfl

/-- Pragmas and settings are heeded failure by failure, and sorting is stable. -/
theorem conclude_narrow (r : Report) (pragmas : Failure → Pragmas) (fs : List Failure) :
    (l.narrow wanted).conclude r pragmas (Failure.only wanted fs) =
      (l.conclude r pragmas fs).only wanted := by
  have hreported : (l.narrow wanted).reported pragmas (Failure.only wanted fs) =
      Failure.only wanted (l.reported pragmas fs) := by
    refine filterMap_wanted (fun f f' hf => ?_) fs
    split at hf
    · cases hf
    · exact code_of_reported hf
  unfold conclude
  rw [hreported]
  simp only [Report.only, Report.sort, Report.tally, Failure.only, Failure.filter_sorted]

/-! ### Build files -/

/-- The run as a whole is not stopped exactly if no rule stops. -/
theorem firstStop?_eq_none_iff {runs : List (RuleInfo × Except Stop Trace)} :
    firstStop? runs = none ↔ ∀ run ∈ runs, ∃ t, run.2 = .ok t := by
  induction runs with
  | nil => exact ⟨fun _ _ hrun => (nomatch hrun), fun _ => rfl⟩
  | cons run runs ih =>
    rw [List.forall_mem_cons, ← ih]
    obtain ⟨info, stop | t⟩ := run
    · constructor
      · intro h
        unfold firstStop? at h
        split at h
        · split at h <;> cases h
        · cases h
      · rintro ⟨⟨t, ht⟩, -⟩
        cases ht
    · exact ⟨fun h => ⟨⟨t, rfl⟩, h⟩, fun h => h.2⟩

/-- Each rule runs by itself. -/
theorem nodeRuns_narrow (nodes : List (Nat × Dockerfile.Node)) :
    (l.narrow wanted).nodeRuns nodes =
      (l.nodeRuns nodes).filter fun run => wanted.contains run.1.code := by
  refine filterMap_wanted (fun r run hrun => ?_) l.catalogue.rules
  split at hrun
  · split at hrun
    · rw [← Option.some.inj hrun]
    · cases hrun
  · cases hrun

theorem code_of_mem_runFailures {path : String} {run : RuleInfo × Except Stop Trace}
    {f : Failure} (hf : f ∈ runFailures path run) : f.code = run.1.code := by
  obtain ⟨info, stop | t⟩ := run
  · cases hf
  · obtain ⟨note, -, rfl⟩ := List.mem_map.mp hf
    rfl

/-- The rules on nodes give failures if none of them stops with an error. -/
theorem nodeFailures_eq_ok_iff {path : String} {nodes : List (Nat × Dockerfile.Node)}
    {fs : List Failure} :
    l.nodeFailures path nodes = .ok fs ↔
      firstStop? (l.nodeRuns nodes) = none ∧
        (l.nodeRuns nodes).flatMap (runFailures path) = fs := by
  simp only [nodeFailures]
  cases firstStop? (l.nodeRuns nodes) with
  | some stop => exact ⟨fun h => (nomatch h), fun h => (nomatch h.1)⟩
  | none => exact ⟨fun h => ⟨rfl, Except.ok.inj h⟩, fun h => congrArg _ h.2⟩

/-- The rules on nodes that are left find what they found among the others. -/
theorem nodeFailures_narrow {path : String} {nodes : List (Nat × Dockerfile.Node)}
    {fs : List Failure} (h : l.nodeFailures path nodes = .ok fs) :
    (l.narrow wanted).nodeFailures path nodes = .ok (Failure.only wanted fs) := by
  rw [nodeFailures_eq_ok_iff] at h ⊢
  obtain ⟨hstop, rfl⟩ := h
  rw [nodeRuns_narrow]
  refine ⟨?_, flatMap_wanted fun run _ f hf => code_of_mem_runFailures hf⟩
  -- the wanted rules stop nowhere, since none of all the rules does
  rw [firstStop?_eq_none_iff] at hstop ⊢
  exact fun run hrun => hstop run (List.mem_of_mem_filter hrun)

/-- The rules on whole files that are left find what they found among the others. -/
theorem buildFileFailures_narrow (hown : l.catalogue.ReportsOwnCodes) (path : String)
    (entries : List Dockerfile.Positioned) :
    (l.narrow wanted).buildFileFailures path entries =
      Failure.only wanted (l.buildFileFailures path entries) := by
  refine flatMap_wanted fun r hr f hf => ?_
  split at hf
  · split at hf
    · exact hown r hr f (.ofBuildFile ‹_› hf)
    · cases hf
  · cases hf

section Entries

variable {path : String} {entries : List Dockerfile.Positioned} {r : Report}

/-- A Dockerfile that switches the linter off has nothing reported. -/
theorem lintEntries_of_disabled
    (hoff : (l.settings.heeded (Pragmas.ofDockerfile entries)).disabled = true) :
    l.lintEntries path entries = .ok { filesChecked := 1 } := by
  simp only [lintEntries]
  rw [if_pos hoff]
  rfl

/-- Else its report is what the rules find, concluded. -/
theorem lintEntries_eq_ok_iff
    (hon : ¬ (l.settings.heeded (Pragmas.ofDockerfile entries)).disabled = true) :
    l.lintEntries path entries = .ok r ↔
      ∃ found, l.nodeFailures path (Dockerfile.Node.ofEntries
          (l.settings.heeded (Pragmas.ofDockerfile entries)).isPosix entries) = .ok found ∧
        l.conclude { filesChecked := 1 } (fun _ => l.settings.heeded (Pragmas.ofDockerfile entries))
          (found ++ l.buildFileFailures path entries) = r := by
  simp only [lintEntries]
  rw [if_neg hon, bind_eq_ok_iff]
  exact exists_congr fun found => and_congr_right fun _ => Iff.of_eq (Except.ok.injEq _ _)

/-- A Dockerfile's report under fewer rules is what the report has under these. -/
theorem lintEntries_narrow (hown : l.catalogue.ReportsOwnCodes)
    (h : l.lintEntries path entries = .ok r) :
    (l.narrow wanted).lintEntries path entries = .ok (r.only wanted) := by
  by_cases hoff : (l.settings.heeded (Pragmas.ofDockerfile entries)).disabled = true
  · rw [lintEntries_of_disabled hoff] at h
    rw [lintEntries_of_disabled (l := l.narrow wanted) hoff, ← Except.ok.inj h]
    rfl
  · obtain ⟨found, hfound, rfl⟩ := (lintEntries_eq_ok_iff hoff).mp h
    refine (lintEntries_eq_ok_iff (l := l.narrow wanted) hoff).mpr
      ⟨_, nodeFailures_narrow hfound, ?_⟩
    rw [buildFileFailures_narrow hown, ← Failure.only_append]
    exact conclude_narrow _ _ _

end Entries

/-- Reading the text asks no rule, so the same holds of it. -/
theorem lintDockerfile_narrow (hown : l.catalogue.ReportsOwnCodes) {text path : String}
    {r : Report} (h : l.lintDockerfile text path = .ok r) :
    (l.narrow wanted).lintDockerfile text path = .ok (r.only wanted) := by
  unfold lintDockerfile at h ⊢
  cases hparse : Dockerfile.parse text with
  | error e =>
    -- what cannot be read is reported without asking any rule
    rw [hparse] at h
    cases e with
    | numeral e => cases h
    | _ => rw [← Except.ok.inj h]; rfl
  | ok entries =>
    rw [hparse] at h
    exact mapError_eq_ok_iff.mpr (lintEntries_narrow hown (mapError_eq_ok_iff.mp h))

/-! ### Charts -/

/-- The rules on charts that are left find what they found among the others. -/
theorem chartFailures_narrow (hown : l.catalogue.ReportsOwnCodes) {view : Chart.View}
    {fs : List Failure} (h : l.chartFailures view = .ok fs) :
    (l.narrow wanted).chartFailures view = .ok (Failure.only wanted fs) := by
  refine collect_wanted (fun r hr part hpart f hf => ?_) h
  split at hpart
  · split at hpart
    · exact hown r hr f (.ofChart ‹_› hpart hf)
    · cases hpart
      cases hf
  · cases hpart
    cases hf

/-- The rules on a template's tokens that are left find what they found among the others. -/
theorem templateFailures_narrow {t : Template.Document} {fs : List Failure}
    (h : l.templateFailures t = .ok fs) :
    (l.narrow wanted).templateFailures t = .ok (Failure.only wanted fs) := by
  refine collect_wanted (fun r hr part hpart f hf => ?_) h
  split at hpart
  · split at hpart
    · split at hpart
      · cases hpart
        obtain ⟨note, -, rfl⟩ := List.mem_map.mp hf
        rfl
      · cases hpart
    · cases hpart
      cases hf
  · cases hpart
    cases hf

/-- All rules on a chart and its templates that are left find what they found among the others. -/
theorem sourceFailures_narrow (hown : l.catalogue.ReportsOwnCodes) {view : Chart.View}
    {fs : List Failure} (h : l.sourceFailures view = .ok fs) :
    (l.narrow wanted).sourceFailures view = .ok (Failure.only wanted fs) := by
  unfold sourceFailures at h ⊢
  obtain ⟨whole, hwhole, h⟩ := bind_eq_ok_iff.mp h
  obtain ⟨streamed, hstreamed, h⟩ := bind_eq_ok_iff.mp h
  have hnarrow : view.templates.mapM (l.narrow wanted).templateFailures =
      .ok (streamed.map (Failure.only wanted)) := by
    rw [mapM_eq_ok_iff] at hstreamed ⊢
    rw [List.forall₂_map_right_iff]
    exact hstreamed.imp fun t fs => templateFailures_narrow
  refine bind_eq_ok_iff.mpr ⟨_, chartFailures_narrow hown hwhole, ?_⟩
  refine bind_eq_ok_iff.mpr ⟨_, hnarrow, ?_⟩
  rw [← Except.ok.inj h, Failure.only_append, Failure.only_flatten]
  rfl

section Source

variable {c : Chart.Source} {r : Report}

/-- A chart that switches the linter off still tells of what could not be read. -/
theorem lintSource_of_disabled (hoff : c.widePragmas.disabled = true) :
    l.lintSource c = .ok { parseErrors := c.errors, filesChecked := c.count } := by
  simp only [lintSource]
  rw [if_pos hoff]
  rfl

/-- Else its report is what the rules find, concluded. -/
theorem lintSource_eq_ok_iff (hon : ¬ c.widePragmas.disabled = true) :
    l.lintSource c = .ok r ↔
      ∃ found, l.sourceFailures c.view = .ok found ∧
        l.conclude { parseErrors := c.errors, filesChecked := c.count } c.pragmasFor found = r := by
  simp only [lintSource]
  rw [if_neg hon, bind_eq_ok_iff]
  exact exists_congr fun found => and_congr_right fun _ => Iff.of_eq (Except.ok.injEq _ _)

/-- A chart's report under fewer rules is what the report has under these. -/
theorem lintSource_narrow (hown : l.catalogue.ReportsOwnCodes) (h : l.lintSource c = .ok r) :
    (l.narrow wanted).lintSource c = .ok (r.only wanted) := by
  by_cases hoff : c.widePragmas.disabled = true
  · rw [lintSource_of_disabled hoff] at h ⊢
    rw [← Except.ok.inj h]
    rfl
  · rw [lintSource_eq_ok_iff hoff] at h ⊢
    obtain ⟨found, hfound, rfl⟩ := h
    exact ⟨_, sourceFailures_narrow hown hfound, conclude_narrow _ _ _⟩

end Source

theorem lintTree_narrow (hown : l.catalogue.ReportsOwnCodes) {root : Path} {chart : FileNode}
    {r : Report} (h : l.lintTree root chart = .ok r) :
    (l.narrow wanted).lintTree root chart = .ok (r.only wanted) := by
  unfold lintTree at h ⊢
  rw [narrow_settings]
  cases hread : Chart.readSource l.settings root chart with
  | error e => rw [hread] at h; cases h
  | ok c =>
    rw [hread] at h
    exact mapError_eq_ok_iff.mpr (lintSource_narrow hown (mapError_eq_ok_iff.mp h))

/-- Looking for the chart and reading it asks no rule either. -/
theorem lintChart_narrow (hown : l.catalogue.ReportsOwnCodes) {w : Workspace} {root : Path}
    {r : Report} (h : l.lintChart w root = .ok r) :
    (l.narrow wanted).lintChart w root = .ok (r.only wanted) := by
  unfold lintChart at h ⊢
  split at h
  · rw [← Except.ok.inj h]
    rfl
  · exact lintTree_narrow hown h
  · rw [← Except.ok.inj h]
    rfl

/-! ### Independence -/

/-- **Rules are independent of each other.** All bundled rules report under their own
codes. With rules that do, if a run of all rules on a build file or on a chart comes to
its end, then so does the run of the wanted rules, whatever the settings, and it reports
the failures under wanted codes in the same order, the same parse errors and the same
number of files. -/
theorem lint_subset :
    Catalogue.bundled.ReportsOwnCodes ∧
    ∀ (c : Catalogue) (s : Settings) (wanted : List String), c.ReportsOwnCodes →
      (∀ text path r, (Linter.mk c s).lintDockerfile text path = .ok r →
        ∃ r', (Linter.mk (c.subset wanted) s).lintDockerfile text path = .ok r' ∧
          r'.failures = r.failures.filter (fun f => wanted.contains f.code) ∧
          r'.parseErrors = r.parseErrors ∧ r'.filesChecked = r.filesChecked) ∧
      ∀ w root r, (Linter.mk c s).lintChart w root = .ok r →
        ∃ r', (Linter.mk (c.subset wanted) s).lintChart w root = .ok r' ∧
          r'.failures = r.failures.filter (fun f => wanted.contains f.code) ∧
          r'.parseErrors = r.parseErrors ∧ r'.filesChecked = r.filesChecked := by
  refine ⟨Catalogue.bundled_reportsOwnCodes, fun c s wanted hown => ⟨?_, ?_⟩⟩
  · intro text path r hr
    exact ⟨r.only wanted, lintDockerfile_narrow (l := ⟨c, s⟩) hown hr, rfl, rfl, rfl⟩
  · intro w root r hr
    exact ⟨r.only wanted, lintChart_narrow (l := ⟨c, s⟩) hown hr, rfl, rfl, rfl⟩

/-- On this build file the rules find in the order of their codes what is reported in the
order of its lines, and the whole-file rule comes last. The chart is an empty directory. -/
theorem lint_subset_bundled :
    (∃ r r', ({} : Linter).lintDockerfile "FROM debian\nMAINTAINER me\nRUN sudo ls" "D" = .ok r ∧
      r.failures.map Failure.code = ["DL3006", "DL3057", "DL4000", "DL3004"] ∧
      (Linter.mk (Catalogue.bundled.subset ["DL3004", "DL3057"]) {}).lintDockerfile
        "FROM debian\nMAINTAINER me\nRUN sudo ls" "D" = .ok r' ∧
      r'.failures.map Failure.code = ["DL3057", "DL3004"]) ∧
    ∃ r r', ({} : Linter).lintChart ⟨.ofText "/", [], .directory []⟩ (.ofText "/") = .ok r ∧
      r.failures.map Failure.code = ["HL1009", "HL1001", "HL3008", "HL1011"] ∧
      (Linter.mk (Catalogue.bundled.subset ["HL1011", "HL1009"]) {}).lintChart
        ⟨.ofText "/", [], .directory []⟩ (.ofText "/") = .ok r' ∧
      r'.failures.map Failure.code = ["HL1009", "HL1011"] := by
  constructor
  · have hcodes : (({} : Linter).lintDockerfile "FROM debian\nMAINTAINER me\nRUN sudo ls" "D").map
        (fun r => r.failures.map Failure.code) = .ok ["DL3006", "DL3057", "DL4000", "DL3004"] := by
      -- the sort of the library does not compute in the kernel, so it is replaced first
      simp only [lintDockerfile, lintEntries, conclude, Report.sort,
        Failure.sorted_eq_insertionSort]
      decide +kernel
    obtain ⟨r, hr, hcodes⟩ := map_eq_ok_iff.mp hcodes
    obtain ⟨r', hr', hkept, -⟩ :=
      (lint_subset.2 .bundled {} ["DL3004", "DL3057"] lint_subset.1).1 _ _ r hr
    refine ⟨r, r', hr, hcodes, hr', ?_⟩
    rw [hkept]
    exact List.filter_map.symm.trans (congrArg (List.filter ["DL3004", "DL3057"].contains) hcodes)
  · have hcodes : (({} : Linter).lintChart ⟨.ofText "/", [], .directory []⟩ (.ofText "/")).map
        (fun r => r.failures.map Failure.code) = .ok ["HL1009", "HL1001", "HL3008", "HL1011"] := by
      simp only [lintChart, lintTree, lintSource, conclude, Report.sort,
        Failure.sorted_eq_insertionSort]
      decide +kernel
    obtain ⟨r, hr, hcodes⟩ := map_eq_ok_iff.mp hcodes
    obtain ⟨r', hr', hkept, -⟩ :=
      (lint_subset.2 .bundled {} ["HL1011", "HL1009"] lint_subset.1).2 _ _ r hr
    refine ⟨r, r', hr, hcodes, hr', ?_⟩
    rw [hkept]
    exact List.filter_map.symm.trans (congrArg (List.filter ["HL1011", "HL1009"].contains) hcodes)

end Linter

end ContainerLint
