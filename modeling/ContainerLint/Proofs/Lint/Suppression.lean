/-
What pragmas do to a report.

A run that heeds pragmas is compared with the run on the same file that does not. Pragmas
can act in three places: they can end the run early, they can name a shell whose scripts
are not read, and they can switch single failures off. The last goes failure by failure
and leaves the others in their order, and the first leaves nothing. Without scripts the
rules find a part of what they find with them, so that in all cases pragmas only take
failures away.

In a chart each file has pragmas of its own. What they say about their whole file is united
and holds for the whole chart; what they say about lines is asked for the file of the
failure alone.
-/
import ContainerLint.Proofs.Chart.Source
import ContainerLint.Proofs.Lint.Reporting
import ContainerLint.Proofs.Rule.Script

namespace ContainerLint

/-- The settings with pragmas heeded or not. -/
def Settings.withPragmas (s : Settings) (on : Bool) : Settings :=
  { s with ignorePragmas := !on }

namespace Linter

variable {c : Catalogue} {s : Settings}

/-! ## Failures switched off one by one -/

/-- What is reported with pragmas is what is reported without them, less what they switch
off. It does not matter that they are asked about the failure at its first severity. -/
theorem reported_withPragmas {pragmas : Failure → Pragmas} (pragmas₀ : Failure → Pragmas)
    (hpragmas : ∀ f severity, pragmas (f.withSeverity severity) = pragmas f) (fs : List Failure) :
    (Linter.mk c (s.withPragmas true)).reported pragmas fs =
      ((Linter.mk c (s.withPragmas false)).reported pragmas₀ fs).filter
        fun f => !(pragmas f).ignores f.code f.line := by
  unfold reported
  rw [List.filter_filterMap]
  refine congrArg (List.filterMap · fs) (funext fun f => ?_)
  have hsame : (s.withPragmas true).reported? f = (s.withPragmas false).reported? f := rfl
  have hheeds : (s.withPragmas true).heeds (pragmas f) f = (pragmas f).ignores f.code f.line := rfl
  have hdeaf : (s.withPragmas false).heeds (pragmas₀ f) f = false := rfl
  dsimp only
  rw [hsame, hheeds, hdeaf, if_neg Bool.false_ne_true]
  cases hreported : (s.withPragmas false).reported? f with
  | none => rw [ite_self, Option.filter_none]
  | some f' =>
    obtain ⟨-, -, -, rfl⟩ := Settings.reported?_eq_some_iff.mp hreported
    rw [Option.filter_some, hpragmas]
    by_cases hoff : (pragmas f).ignores f.code f.line = true
    · rw [if_pos hoff]
      exact (if_neg fun h => Bool.false_ne_true ((Bool.not_eq_true' _).mp h ▸ hoff)).symm
    · rw [if_neg hoff]
      exact (if_pos ((Bool.not_eq_true' _).mpr (Bool.eq_false_iff.mpr hoff))).symm

/-! ## Build files -/

section Rules

variable {l : Linter} {path : String} {nodes : List (Nat × Dockerfile.Node)}

/-- **Without scripts a part is found of what is found with them**, if that is so for each
rule. -/
theorem nodeFailures_withoutScripts
    (hrules : ∀ r ∈ l.catalogue.rules, r.check.FindsFewerWithoutScripts) {fs fs' : List Failure}
    (h : l.nodeFailures path nodes = .ok fs)
    (h' : l.nodeFailures path (Dockerfile.withoutScripts nodes) = .ok fs') : fs'.Sublist fs := by
  obtain ⟨hstop, rfl⟩ := nodeFailures_eq_ok_iff.mp h
  obtain ⟨-, rfl⟩ := nodeFailures_eq_ok_iff.mp h'
  have hends := firstStop?_eq_none_iff.mp hstop
  unfold nodeRuns at hends ⊢
  rw [List.filterMap_eq_flatMap_toList, List.filterMap_eq_flatMap_toList, List.flatMap_assoc,
    List.flatMap_assoc]
  -- rule by rule: those on nodes find fewer, and all others are not asked here
  refine List.Sublist.flatMap_right _ fun r hr => ?_
  have hfewer := hrules r hr
  cases hcheck : r.check with
  | buildFile | tokens | chart => exact List.Sublist.refl _
  | nodes run =>
    rw [hcheck] at hfewer
    by_cases hactive : l.isActive r = true
    · simp only [if_pos hactive, Option.toList_some, List.flatMap_singleton]
      obtain ⟨t, ht⟩ : ∃ t, run (l.optionsOf r) nodes = .ok t := by
        refine hends (r.toRuleInfo, run (l.optionsOf r) nodes) (List.mem_filterMap.mpr ⟨r, hr, ?_⟩)
        rw [hcheck]
        exact if_pos hactive
      rw [ht]
      cases ht' : run (l.optionsOf r) (Dockerfile.withoutScripts nodes) with
      | error stop => exact List.nil_sublist _
      | ok t' => exact (hfewer _ _ t t' ht ht').map _
    · simp only [if_neg hactive]
      exact List.Sublist.refl _

end Rules

section Entries

variable {path : String} {entries : List Dockerfile.Positioned} {r r₀ : Report}

/-- The run that does not heed pragmas reads all scripts and goes to the end. -/
theorem lintEntries_deaf_eq_ok_iff :
    (Linter.mk c (s.withPragmas false)).lintEntries path entries = .ok r₀ ↔
      ∃ found, (Linter.mk c s).nodeFailures path (Dockerfile.Node.ofEntries true entries) =
          .ok found ∧
        (Linter.mk c (s.withPragmas false)).conclude { filesChecked := 1 } (fun _ => Pragmas.none)
          (found ++ (Linter.mk c s).buildFileFailures path entries) = r₀ :=
  lintEntries_eq_ok_iff (l := ⟨c, s.withPragmas false⟩) Bool.false_ne_true

/-- The run that heeds pragmas, if they do not switch the file off. -/
theorem lintEntries_heeding_eq_ok_iff (hon : ¬ (Pragmas.ofDockerfile entries).disabled = true) :
    (Linter.mk c (s.withPragmas true)).lintEntries path entries = .ok r ↔
      ∃ found, (Linter.mk c s).nodeFailures path
          (Dockerfile.Node.ofEntries (Pragmas.ofDockerfile entries).isPosix entries) = .ok found ∧
        (Linter.mk c (s.withPragmas true)).conclude { filesChecked := 1 }
          (fun _ => Pragmas.ofDockerfile entries)
          (found ++ (Linter.mk c s).buildFileFailures path entries) = r :=
  lintEntries_eq_ok_iff (l := ⟨c, s.withPragmas true⟩) hon

/-- Pragmas that leave the common shell take away what they switch off, and nothing else. -/
theorem failures_of_posix (hon : ¬ (Pragmas.ofDockerfile entries).disabled = true)
    (hposix : (Pragmas.ofDockerfile entries).isPosix = true)
    (h : (Linter.mk c (s.withPragmas true)).lintEntries path entries = .ok r)
    (h₀ : (Linter.mk c (s.withPragmas false)).lintEntries path entries = .ok r₀) :
    r.failures =
      r₀.failures.filter fun f => !(Pragmas.ofDockerfile entries).ignores f.code f.line := by
  obtain ⟨found, hfound, rfl⟩ := (lintEntries_heeding_eq_ok_iff hon).mp h
  obtain ⟨found₀, hfound₀, rfl⟩ := lintEntries_deaf_eq_ok_iff.mp h₀
  rw [hposix, hfound₀] at hfound
  rw [← Except.ok.inj hfound]
  exact congrArg Report.failures (conclude_keep (reported_withPragmas _ (fun _ _ => rfl) _) _)

/-- Whatever shell they name, pragmas only take failures away. -/
theorem failures_sublist (hrules : ∀ r ∈ c.rules, r.check.FindsFewerWithoutScripts)
    (hon : ¬ (Pragmas.ofDockerfile entries).disabled = true)
    (h : (Linter.mk c (s.withPragmas true)).lintEntries path entries = .ok r)
    (h₀ : (Linter.mk c (s.withPragmas false)).lintEntries path entries = .ok r₀) :
    r.failures.Sublist r₀.failures := by
  obtain ⟨found, hfound, rfl⟩ := (lintEntries_heeding_eq_ok_iff hon).mp h
  obtain ⟨found₀, hfound₀, rfl⟩ := lintEntries_deaf_eq_ok_iff.mp h₀
  have hfewer : found.Sublist found₀ := by
    cases hposix : (Pragmas.ofDockerfile entries).isPosix with
    | true =>
      rw [hposix, hfound₀] at hfound
      rw [← Except.ok.inj hfound]
    | false =>
      rw [hposix, Dockerfile.Node.ofEntries_false] at hfound
      exact nodeFailures_withoutScripts hrules hfound₀ hfound
  -- what is left out of the failures that are made is left out of those that are reported,
  -- and sorting does not move one of the others before another
  refine Failure.sorted_sublist ?_
  rw [reported_withPragmas (fun _ => Pragmas.none) fun _ _ => rfl]
  exact List.filter_sublist.trans ((hfewer.append_right _).filterMap _)

end Entries

/-- **Pragmas of a build file only take failures away.** Take the reports of two runs on
the same text, of which the first heeds pragmas and the second does not. The failures of
the first are among those of the second, in the same order. If the pragmas switch the
file off there are none; and otherwise, if the shell they name is of the common language,
they are exactly the failures of the second run that the pragmas do not switch off. -/
theorem lintDockerfile_withPragmas (s : Settings) (text path : String) (r r₀ : Report)
    (h : (Linter.mk .bundled (s.withPragmas true)).lintDockerfile text path = .ok r)
    (h₀ : (Linter.mk .bundled (s.withPragmas false)).lintDockerfile text path = .ok r₀) :
    r.failures.Sublist r₀.failures ∧
    ∀ entries, Dockerfile.parse text = .ok entries →
      ((Pragmas.ofDockerfile entries).disabled = true → r.failures = []) ∧
      ((Pragmas.ofDockerfile entries).disabled = false →
        (Pragmas.ofDockerfile entries).isPosix = true →
        r.failures =
          r₀.failures.filter fun f => !(Pragmas.ofDockerfile entries).ignores f.code f.line) := by
  unfold lintDockerfile at h h₀
  cases hparse : Dockerfile.parse text with
  | error e =>
    rw [hparse] at h
    refine ⟨?_, fun entries hentries => (nomatch hentries)⟩
    cases e with
    | numeral e => cases h
    | _ =>
      rw [← Except.ok.inj h]
      exact List.nil_sublist _
  | ok entries =>
    rw [hparse] at h h₀
    have h := mapError_eq_ok_iff.mp h
    have h₀ := mapError_eq_ok_iff.mp h₀
    by_cases hoff : (Pragmas.ofDockerfile entries).disabled = true
    · have hnone : r.failures = [] := by
        rw [lintEntries_of_disabled (l := ⟨.bundled, s.withPragmas true⟩) hoff] at h
        rw [← Except.ok.inj h]
      refine ⟨hnone ▸ List.nil_sublist _, fun entries' hentries => ?_⟩
      rw [← Except.ok.inj hentries]
      exact ⟨fun _ => hnone, fun hon => absurd hoff (Bool.eq_false_iff.mp hon)⟩
    · refine ⟨failures_sublist Catalogue.bundled_findsFewer hoff h h₀, fun entries' hentries => ?_⟩
      rw [← Except.ok.inj hentries]
      exact ⟨fun hon => absurd hon hoff, fun _ hposix => failures_of_posix hoff hposix h h₀⟩

/-- One pragma switches a code off for the next instruction, and another names a shell
whose scripts are not read. -/
theorem lintDockerfile_withPragmas_foreignShell :
    ∃ r r₀,
      (Linter.mk .bundled (({} : Settings).withPragmas true)).lintDockerfile
        "# hadolint ignore=DL3006\n# hadolint shell=pwsh\nFROM debian\nRUN sudo ls" "D" = .ok r ∧
      (Linter.mk .bundled (({} : Settings).withPragmas false)).lintDockerfile
        "# hadolint ignore=DL3006\n# hadolint shell=pwsh\nFROM debian\nRUN sudo ls" "D" = .ok r₀ ∧
      r.failures.map Failure.code = ["DL3057"] ∧
      r₀.failures.map Failure.code = ["DL3057", "DL3006", "DL3004"] ∧
      r.failures.Sublist r₀.failures := by
  have hcodes : ((Linter.mk .bundled (({} : Settings).withPragmas true)).lintDockerfile
      "# hadolint ignore=DL3006\n# hadolint shell=pwsh\nFROM debian\nRUN sudo ls" "D").map
        (fun r => r.failures.map Failure.code) = .ok ["DL3057"] := by
    simp only [lintDockerfile, lintEntries, conclude, Report.sort, Failure.sorted_eq_insertionSort]
    decide +kernel
  have hcodes₀ : ((Linter.mk .bundled (({} : Settings).withPragmas false)).lintDockerfile
      "# hadolint ignore=DL3006\n# hadolint shell=pwsh\nFROM debian\nRUN sudo ls" "D").map
        (fun r => r.failures.map Failure.code) = .ok ["DL3057", "DL3006", "DL3004"] := by
    simp only [lintDockerfile, lintEntries, conclude, Report.sort, Failure.sorted_eq_insertionSort]
    decide +kernel
  obtain ⟨r, hr, hcodes⟩ := map_eq_ok_iff.mp hcodes
  obtain ⟨r₀, hr₀, hcodes₀⟩ := map_eq_ok_iff.mp hcodes₀
  exact ⟨r, r₀, hr, hr₀, hcodes, hcodes₀, (lintDockerfile_withPragmas {} _ "D" r r₀ hr hr₀).1⟩

end Linter

/-! ## Charts -/

namespace Chart.Source

variable {source : Source} {code : String} {line : Int}

/-- Merged comments switch the linter off if those of any file do. -/
theorem disabled_foldl_merge (files : List (String × Pragmas)) (start : Pragmas) :
    (files.foldl (fun all e => all.merge e.2.fileLevel) start).disabled = true ↔
      start.disabled = true ∨ ∃ e ∈ files, e.2.disabled = true := by
  induction files generalizing start with
  | nil => exact ⟨.inl, fun h => h.resolve_right fun ⟨_, he, _⟩ => (nomatch he)⟩
  | cons e files ih =>
    have hmerge : (start.merge e.2.fileLevel).disabled = true ↔
        start.disabled = true ∨ e.2.disabled = true := Bool.or_eq_true_iff
    rw [List.foldl_cons, ih, hmerge, or_assoc, List.exists_mem_cons_iff]

/-- Some file switches the whole chart off. -/
theorem disabled_widePragmas :
    source.widePragmas.disabled = true ↔ ∃ e ∈ source.pragmas, e.2.disabled = true :=
  (disabled_foldl_merge source.pragmas Pragmas.none).trans (or_iff_right Bool.false_ne_true)

/-- What is off in the whole chart is what some file switches off for its whole. -/
theorem ignores_widePragmas :
    source.widePragmas.ignores code line = true ↔
      ∃ e ∈ source.pragmas, e.2.fileLevel.ignores code line = true :=
  (Pragmas.ignores_foldl_fileLevel Prod.snd source.pragmas Pragmas.none).trans
    (or_iff_right Bool.false_ne_true)

theorem mem_of_lookup {files : List (String × Pragmas)} {name : String} {p : Pragmas}
    (h : files.lookup name = some p) : (name, p) ∈ files := by
  obtain ⟨front, back, rfl, -⟩ := List.lookup_eq_some_iff.mp h
  exact List.mem_append_right front List.mem_cons_self

/-- **What is off for a failure** is off in the whole chart, or on its line in its own
file. -/
theorem ignores_pragmasFor (hdistinct : ∀ e ∈ source.pragmas, Pragmas.Distinct e.2.lineCodes)
    (f : Failure) :
    (source.pragmasFor f).ignores code line = true ↔
      (∃ e ∈ source.pragmas, e.2.fileLevel.ignores code line = true) ∨
        ∃ p, source.pragmas.lookup f.file = some p ∧
          Pragmas.covers (p.codesAt line) code = true := by
  unfold pragmasFor
  cases hown : source.pragmas.lookup f.file with
  | none =>
    rw [ignores_widePragmas]
    exact (or_iff_left fun ⟨_, hp, _⟩ => (nomatch hp)).symm
  | some p =>
    have hmem := mem_of_lookup hown
    dsimp only
    rw [Pragmas.ignores_merge (hdistinct _ hmem), ignores_widePragmas,
      Pragmas.ignores_iff_fileLevel_or]
    constructor
    · rintro (hwide | hfile | hline)
      · exact .inl hwide
      · exact .inl ⟨(f.file, p), hmem, hfile⟩
      · exact .inr ⟨p, rfl, hline⟩
    · rintro (hwide | ⟨q, hq, hline⟩)
      · exact .inl hwide
      · exact .inr (.inr (Option.some.inj hq ▸ hline))

end Chart.Source

/-- What the pragmas of a chart's files switch off for a failure, if none of them switches
its file off: its code in the whole of some file, or its code, or all codes, on its line in
its own file. -/
def Chart.suppresses (files : List (String × Pragmas)) (f : Failure) : Bool :=
  files.any (fun e => e.2.fileCodes.contains f.code) ||
    (files.lookup f.file).any fun p => Pragmas.covers (p.codesAt f.line) f.code

/-- A failure is silenced in the whole chart by its code, or on its line by its own file. -/
theorem Chart.suppresses_iff {files : List (String × Pragmas)} {f : Failure} :
    suppresses files f = true ↔
      (∃ e ∈ files, f.code ∈ e.2.fileCodes) ∨
        ∃ p, files.lookup f.file = some p ∧ Pragmas.covers (p.codesAt f.line) f.code = true := by
  unfold suppresses
  rw [Bool.or_eq_true, List.any_eq_true, Option.any_eq_true]
  refine or_congr_left (exists_congr fun e => and_congr_right fun _ => ?_)
  exact List.contains_iff_mem

/-- The merged comments silence what the files' comments do. -/
theorem Chart.Source.ignores_pragmasFor_eq {source : Source}
    (hofChart : ∀ e ∈ source.pragmas, e.2.OfChart)
    (hon : ∀ e ∈ source.pragmas, e.2.disabled = false) (f : Failure) :
    (source.pragmasFor f).ignores f.code f.line = suppresses source.pragmas f := by
  rw [Bool.eq_iff_iff, suppresses_iff, ignores_pragmasFor fun e he => (hofChart e he).distinct]
  refine or_congr_left (exists_congr fun e => and_congr_right fun he => ?_)
  rw [Pragmas.ignores_fileLevel, Pragmas.covers_iff,
    or_iff_right (Bool.eq_false_iff.mp (hon e he)), or_iff_left (hofChart e he).wildcard_not_mem]

namespace Linter

variable {c : Catalogue} {s : Settings}

/-- Without heeding comments the report is what the rules find. -/
theorem lintSource_deaf_eq_ok_iff {source : Chart.Source} {r₀ : Report} :
    (Linter.mk c (s.withPragmas false)).lintSource
        (source.heededBy (s.withPragmas false)) = .ok r₀ ↔
      ∃ found, (Linter.mk c s).sourceFailures source.view = .ok found ∧
        (Linter.mk c (s.withPragmas false)).conclude
          { parseErrors := source.errors, filesChecked := source.count }
          (source.heededBy (s.withPragmas false)).pragmasFor found = r₀ := by
  refine lintSource_eq_ok_iff (l := ⟨c, s.withPragmas false⟩) ?_
  rw [Chart.Source.disabled_widePragmas]
  rintro ⟨e, he, hdisabled⟩
  obtain ⟨e', -, rfl⟩ := List.mem_map.mp he
  exact Bool.false_ne_true hdisabled

/-- Pragmas that switch no file off take away what they switch off, and nothing else. -/
theorem failures_of_lintSource {source : Chart.Source} {r r₀ : Report}
    (hofChart : ∀ e ∈ source.pragmas, e.2.OfChart)
    (hon : ∀ e ∈ source.pragmas, e.2.disabled = false)
    (h : (Linter.mk c (s.withPragmas true)).lintSource source = .ok r)
    (h₀ : (Linter.mk c (s.withPragmas false)).lintSource
      (source.heededBy (s.withPragmas false)) = .ok r₀) :
    r.failures = r₀.failures.filter fun f => !Chart.suppresses source.pragmas f := by
  have hnotOff : ¬ source.widePragmas.disabled = true := by
    rw [Chart.Source.disabled_widePragmas]
    rintro ⟨e, he, hdisabled⟩
    exact Bool.false_ne_true (hon e he ▸ hdisabled)
  obtain ⟨found, hfound, rfl⟩ := (lintSource_eq_ok_iff hnotOff).mp h
  obtain ⟨found₀, hfound₀, rfl⟩ := lintSource_deaf_eq_ok_iff.mp h₀
  have hsame : found = found₀ := Except.ok.inj (hfound.symm.trans hfound₀)
  subst hsame
  have hignores : (fun f => !(source.pragmasFor f).ignores f.code f.line) =
      fun f => !Chart.suppresses source.pragmas f := by
    funext f
    rw [Chart.Source.ignores_pragmasFor_eq hofChart hon]
  rw [← hignores]
  exact congrArg Report.failures (conclude_keep (reported_withPragmas _ (fun _ _ => rfl) _) _)

/-- Heeding them takes out just what they silence. -/
theorem lintTree_withPragmas {root : Path} {chart : FileNode} {r r₀ : Report}
    (h : (Linter.mk c (s.withPragmas true)).lintTree root chart = .ok r)
    (h₀ : (Linter.mk c (s.withPragmas false)).lintTree root chart = .ok r₀) :
    ((∃ e ∈ Chart.filePragmas s root chart, e.2.disabled = true) → r.failures = []) ∧
      ((∀ e ∈ Chart.filePragmas s root chart, e.2.disabled = false) →
        r.failures =
          r₀.failures.filter fun f => !Chart.suppresses (Chart.filePragmas s root chart) f) := by
  unfold lintTree at h h₀
  -- the chart is read in the same way, only its comments are dropped
  rw [Chart.readSource_heededBy (s := s.withPragmas false) root
    (rfl : (s.withPragmas true).ignorePragmas = false) rfl] at h₀
  cases hsource : Chart.readSource (s.withPragmas true) root chart with
  | error e =>
    rw [hsource] at h
    cases h
  | ok source =>
    rw [hsource] at h h₀
    have h := mapError_eq_ok_iff.mp h
    have h₀ := mapError_eq_ok_iff.mp h₀
    have hfiles : source.pragmas = Chart.filePragmas s root chart :=
      Chart.pragmas_of_readSource (s := s.withPragmas true) rfl hsource
    rw [← hfiles]
    constructor
    · intro hoff
      rw [lintSource_of_disabled (Chart.Source.disabled_widePragmas.mpr hoff)] at h
      rw [← Except.ok.inj h]
    · intro hon
      refine failures_of_lintSource (fun e he => ?_) hon h h₀
      exact Chart.ofChart_of_mem_filePragmas (hfiles ▸ he)

/-- **What pragmas switch off in a chart.** Take the reports of two runs on the same
chart, of which the first heeds pragmas and the second does not. If the pragmas of some
file that is linted switch that file off, the first has no failures. Otherwise it has
exactly those failures of the second, in the same order, whose codes no file switches off
for its whole, and whose own file does not switch their code, or all codes, off on their
line. A failure that is gone is so for one of these reasons, and never for what another
file says about its lines. -/
theorem lintChart_withPragmas (c : Catalogue) (s : Settings) (w : Workspace) (root : Path)
    (chart : FileNode) (r r₀ : Report) (hchart : w.find root = .ok chart)
    (h : (Linter.mk c (s.withPragmas true)).lintChart w root = .ok r)
    (h₀ : (Linter.mk c (s.withPragmas false)).lintChart w root = .ok r₀) :
    ((∃ e ∈ Chart.filePragmas s root chart, e.2.disabled = true) → r.failures = []) ∧
    ((∀ e ∈ Chart.filePragmas s root chart, e.2.disabled = false) →
      r.failures =
        r₀.failures.filter (fun f => !Chart.suppresses (Chart.filePragmas s root chart) f) ∧
      ∀ f ∈ r₀.failures, f ∉ r.failures →
        (∃ e ∈ Chart.filePragmas s root chart, f.code ∈ e.2.fileCodes) ∨
        ∃ p, (Chart.filePragmas s root chart).lookup f.file = some p ∧
          Pragmas.covers (p.codesAt f.line) f.code = true) := by
  have hreports : ((∃ e ∈ Chart.filePragmas s root chart, e.2.disabled = true) →
        r.failures = []) ∧
      ((∀ e ∈ Chart.filePragmas s root chart, e.2.disabled = false) → r.failures =
        r₀.failures.filter fun f => !Chart.suppresses (Chart.filePragmas s root chart) f) := by
    unfold lintChart at h h₀
    rw [hchart] at h h₀
    cases chart with
    | directory entries => exact lintTree_withPragmas h h₀
    | file | link =>
      rw [← Except.ok.inj h, ← Except.ok.inj h₀]
      exact ⟨fun _ => rfl, fun _ => rfl⟩
  refine ⟨hreports.1, fun hon => ⟨hreports.2 hon, fun f hf hgone => ?_⟩⟩
  rw [← Chart.suppresses_iff]
  rw [hreports.2 hon, List.mem_filter, not_and] at hgone
  by_contra hkept
  rw [Bool.not_eq_true] at hkept
  exact hgone hf (by rw [hkept]; rfl)

end Linter

/-- Two templates: one switches a code off on its second line, and the other a code in the
whole chart. -/
def Chart.twoTemplates : FileNode :=
  .directory [("templates", .directory [
    ("a.yaml", .file "# helmlint-ignore HL4002\nprivileged: true".toUTF8.toList),
    ("b.yaml", .file "# helmlint-ignore-file HL1001\nprivileged: true".toUTF8.toList)])]

theorem Chart.contents_twoTemplates : twoTemplates.contents = twoTemplates.walk [] :=
  List.mergeSort_of_pairwise (by decide +kernel)

/-- The same line in another template keeps its failure. -/
theorem Linter.lintChart_withPragmas_twoTemplates :
    ∃ r r₀,
      (Linter.mk (Catalogue.bundled.subset ["HL1001", "HL4002"])
        (({} : Settings).withPragmas true)).lintChart ⟨.ofText "/", [], Chart.twoTemplates⟩
        (.ofText "/") = .ok r ∧
      (Linter.mk (Catalogue.bundled.subset ["HL1001", "HL4002"])
        (({} : Settings).withPragmas false)).lintChart ⟨.ofText "/", [], Chart.twoTemplates⟩
        (.ofText "/") = .ok r₀ ∧
      r.failures.map (fun f => (f.code, f.file, f.line)) = [("HL4002", "templates/b.yaml", 2)] ∧
      r₀.failures.map (fun f => (f.code, f.file, f.line)) =
        [("HL1001", "Chart.yaml", 1), ("HL4002", "templates/a.yaml", 2),
          ("HL4002", "templates/b.yaml", 2)] ∧
      r.failures = r₀.failures.filter fun f =>
        !Chart.suppresses (Chart.filePragmas {} (.ofText "/") Chart.twoTemplates) f := by
  have hfind : (⟨.ofText "/", [], Chart.twoTemplates⟩ : Workspace).find (.ofText "/") =
      .ok Chart.twoTemplates := rfl
  have htree : ∀ l : Linter, l.lintChart ⟨.ofText "/", [], Chart.twoTemplates⟩ (.ofText "/") =
      l.lintTree (.ofText "/") Chart.twoTemplates := fun _ => rfl
  have hcodes : ((Linter.mk (Catalogue.bundled.subset ["HL1001", "HL4002"])
      (({} : Settings).withPragmas true)).lintTree (.ofText "/") Chart.twoTemplates).map
        (fun r => r.failures.map fun f => (f.code, f.file, f.line)) =
      .ok [("HL4002", "templates/b.yaml", 2)] := by
    simp only [lintTree, lintSource, conclude, Report.sort, Failure.sorted_eq_insertionSort,
      Chart.readSource, Chart.ownFiles, Chart.contents_twoTemplates]
    decide +kernel
  have hcodes₀ : ((Linter.mk (Catalogue.bundled.subset ["HL1001", "HL4002"])
      (({} : Settings).withPragmas false)).lintTree (.ofText "/") Chart.twoTemplates).map
        (fun r => r.failures.map fun f => (f.code, f.file, f.line)) =
      .ok [("HL1001", "Chart.yaml", 1), ("HL4002", "templates/a.yaml", 2),
        ("HL4002", "templates/b.yaml", 2)] := by
    simp only [lintTree, lintSource, conclude, Report.sort, Failure.sorted_eq_insertionSort,
      Chart.readSource, Chart.ownFiles, Chart.contents_twoTemplates]
    decide +kernel
  have hon : ∀ e ∈ Chart.filePragmas {} (.ofText "/") Chart.twoTemplates,
      e.2.disabled = false := by
    simp only [Chart.filePragmas, Chart.lintedFiles, Chart.keptFiles, Chart.ownFiles,
      Chart.contents_twoTemplates]
    decide +kernel
  obtain ⟨r, hr, hcodes⟩ := map_eq_ok_iff.mp hcodes
  obtain ⟨r₀, hr₀, hcodes₀⟩ := map_eq_ok_iff.mp hcodes₀
  rw [← htree] at hr hr₀
  refine ⟨r, r₀, hr, hr₀, hcodes, hcodes₀, ?_⟩
  exact ((lintChart_withPragmas _ {} _ _ _ r r₀ hfind hr hr₀).2 hon).1

end ContainerLint
