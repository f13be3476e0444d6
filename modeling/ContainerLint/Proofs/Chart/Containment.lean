/-
When the linting of a chart comes to an end.

What is wrong with the form of a file is part of the report, and what is wrong with what it
holds should be too. There are exceptions, and they are told here in full: a fault in what
a file of structured text holds, a description whose fields cannot be read, values that hold
themselves, a key without a text, and the two rules that read numbers among the values. Templates never stop a run,
whatever they hold.
-/
import ContainerLint.Proofs.Chart.Metadata
import ContainerLint.Proofs.Chart.Values
import ContainerLint.Proofs.Lint.Suppression
import ContainerLint.Proofs.Rule.Ending

namespace ContainerLint.Chart

open ContainerLint.Text

/-! ## Loading -/

/-- What loading came to has its place in a report: a result, or an error of form. -/
def IsRecorded {α : Type} (x : Except LoadError α) : Prop :=
  (∃ a, x = .ok a) ∨ ∃ problem line, x = .error (.malformed problem line)

/-- A result has its place in a report. -/
theorem isRecorded_ok {α : Type} (a : α) : IsRecorded (.ok a) := .inl ⟨a, rfl⟩

/-- An error that is not one of form has no place in a report. -/
theorem not_isRecorded_error {α : Type} {e : LoadError}
    (h : ∀ problem line, e ≠ .malformed problem line) :
    ¬IsRecorded (.error e : Except LoadError α) := by
  rintro (⟨a, he⟩ | ⟨problem, line, he⟩)
  · cases he
  · exact h problem line (Except.error.inj he)

/-- An error of a document is one of form unless it is a fault. -/
theorem isRecorded_ofYaml_iff {α : Type} (text : String) (e : Yaml.Error) :
    IsRecorded (.error (LoadError.ofYaml text e) : Except LoadError α) ↔ ∀ f, e ≠ .fault f := by
  cases e with
  | fault f =>
    exact iff_of_false (not_isRecorded_error fun _ _ h => nomatch h) fun h => h f rfl
  | unreadable | marked | misplaced =>
    exact iff_of_true (.inr ⟨_, _, rfl⟩) fun _ h => nomatch h

/-- **The description of a chart is loaded or recorded as malformed**, unless it has a fault
or is a mapping that describes nothing. -/
theorem isRecorded_metadata_iff (text : String) : IsRecorded (Metadata.ofText text) ↔
    (∀ f, Yaml.load text ≠ .error (.fault f)) ∧
      ∀ data, Yaml.load text = .ok data → data.isMap = true → Metadata.IsDescription data := by
  unfold Metadata.ofText
  cases Yaml.load text with
  | error e =>
    dsimp only
    rw [isRecorded_ofYaml_iff]
    exact ⟨fun h => ⟨fun f he => h f (Except.error.inj he), fun _ h => nomatch h⟩,
      fun h f he => h.1 f (congrArg _ he)⟩
  | ok data =>
    have hfault : ∀ f, (Except.ok data : Except Yaml.Error Value) ≠ .error (.fault f) :=
      fun _ h => nomatch h
    have hdata : (∀ d, Except.ok data = (Except.ok d : Except Yaml.Error Value) →
        d.isMap = true → Metadata.IsDescription d) ↔
        (data.isMap = true → Metadata.IsDescription data) :=
      ⟨fun h => h data rfl, fun h _ hd => Except.ok.inj hd ▸ h⟩
    dsimp only
    rw [and_iff_right hfault, hdata]
    split
    next hnull =>
      obtain rfl : data = .null := by cases data <;> first | rfl | cases hnull
      exact iff_of_true (.inl ⟨_, rfl⟩) fun h => nomatch h
    next =>
      split
      next hmap =>
        -- a mapping is not refused for its form, so it is recorded only if it is read
        rw [← Metadata.exists_ofValue_iff, IsRecorded, or_iff_left, imp_iff_right hmap]
        rintro ⟨problem, line, h⟩
        exact Metadata.keepsForm_ofValue data problem line h
      next hmap => exact iff_of_true (.inr ⟨_, _, rfl⟩) fun h => absurd h hmap

/-- **The values of a chart are loaded or recorded as malformed**, unless they have a fault,
no end or a key without a text. -/
theorem isRecorded_values_iff (text : String) : IsRecorded (Values.ofText text) ↔
    (∀ f, Yaml.loadOutlined text ≠ .error (.fault f)) ∧
      ∀ entries outline, Yaml.loadOutlined text = .ok (.map entries, outline) →
        Values.isEndless (.map entries) = false ∧ ∀ key ∈ outline.keys, key.HasText := by
  unfold Values.ofText
  cases Yaml.loadOutlined text with
  | error e =>
    dsimp only
    rw [isRecorded_ofYaml_iff]
    exact ⟨fun h => ⟨fun f he => h f (Except.error.inj he), fun _ _ h => nomatch h⟩,
      fun h f he => h.1 f (congrArg _ he)⟩
  | ok result =>
    obtain ⟨value, outline⟩ := result
    -- what was read is no fault, so the shape of the value decides
    have hfault : ∀ f, (Except.ok (value, outline) : Except Yaml.Error (Value × Yaml.Outline)) ≠
        .error (.fault f) := fun _ h => nomatch h
    rw [and_iff_right hfault]
    cases value with
    | null => exact iff_of_true (isRecorded_ok _) fun _ _ h => nomatch h
    | map entries =>
      have hkeys := Values.exists_pathsIn_iff "" outline
      dsimp only
      by_cases hendless : Values.isEndless (.map entries) = true
      · rw [if_pos hendless]
        refine iff_of_false (not_isRecorded_error fun _ _ h => nomatch h) fun h => ?_
        rw [(h entries outline rfl).1] at hendless
        cases hendless
      · rw [if_neg hendless]
        cases hpaths : Values.pathsIn "" outline with
        | error e =>
          rw [hpaths] at hkeys
          refine iff_of_false (not_isRecorded_error fun _ _ h => nomatch h) fun h => ?_
          obtain ⟨paths, h⟩ := hkeys.mpr (h entries outline rfl).2
          cases h
        | ok paths =>
          rw [hpaths] at hkeys
          refine iff_of_true (isRecorded_ok _) ?_
          rintro _ _ ⟨⟩
          exact ⟨Bool.eq_false_iff.mpr hendless, hkeys.mp ⟨paths, rfl⟩⟩
    | _ => exact iff_of_true (.inr ⟨_, _, rfl⟩) fun _ _ h => nomatch h

/-! ## Reading -/

/-- The text of the file of a name, if there is one and it can be read. -/
def textNamed? (files : List SourceFile) (name : String) : Option String :=
  (files.find? (·.name == name)).bind fun f => (fileText f.bytes).toOption

section Reading

variable {α : Type} {s : Settings} {root : Path} {load : String → Except LoadError α}
  {name : String} {files : List SourceFile} {r : Reading α}

/-- What is read of a file of structured text, by what loading came to. -/
theorem readNamed_of_text {text : String} (htext : textNamed? files name = some text) :
    readNamed s root load name files = match load text with
      | .ok a => .ok ⟨[a], [(name, s.heeded (Pragmas.ofChartText text))], [], 1⟩
      | .error (.malformed problem line) =>
        .ok ⟨[], [(name, s.heeded (Pragmas.ofChartText text))],
          [name ++ ": " ++ (LoadError.malformed problem line).message], 1⟩
      | .error e => .error e := by
  obtain ⟨f, hfind, hf⟩ := Option.bind_eq_some_iff.mp htext
  have hname : f.name = name := by simpa using List.find?_some hfind
  -- the text that is asked for is that of the file of the name
  have hread : fileText f.bytes = .ok text := by
    cases hread : fileText f.bytes with
    | error e => rw [hread] at hf; cases hf
    | ok t => rw [hread] at hf; rw [← Option.some.inj hf]
  unfold readNamed
  rw [hfind]
  dsimp only
  unfold readStructured readFile
  rw [hread]
  dsimp only
  rw [hname]
  cases load text with
  | ok a => rfl
  | error e => cases e <;> rfl

/-- Without such a text nothing is read, and nothing stops. -/
theorem readNamed_of_no_text (htext : textNamed? files name = none) :
    ∃ r, readNamed s root load name files = .ok r ∧ r.contents = [] := by
  unfold readNamed
  unfold textNamed? at htext
  cases hfind : files.find? (·.name == name) with
  | none => exact ⟨{}, rfl, rfl⟩
  | some f =>
    rw [hfind] at htext
    dsimp only
    unfold readStructured readFile
    cases hread : fileText f.bytes with
    | error e => exact ⟨_, rfl, rfl⟩
    | ok t => simp [hread, Except.toOption] at htext

/-- A file of structured text is read if what its text holds can be recorded. -/
theorem exists_readNamed_iff : (∃ r, readNamed s root load name files = .ok r) ↔
    ∀ text, textNamed? files name = some text → IsRecorded (load text) := by
  cases htext : textNamed? files name with
  | none =>
    obtain ⟨r, hr, -⟩ := readNamed_of_no_text htext
    exact iff_of_true ⟨r, hr⟩ fun _ h => nomatch h
  | some text =>
    have hone : (∀ t, some text = some t → IsRecorded (load t)) ↔ IsRecorded (load text) :=
      ⟨fun h => h text rfl, fun h _ ht => Option.some.inj ht ▸ h⟩
    rw [readNamed_of_text htext, hone]
    cases load text with
    | ok a => exact iff_of_true ⟨_, rfl⟩ (isRecorded_ok a)
    | error e =>
      cases e with
      | malformed problem line => exact iff_of_true ⟨_, rfl⟩ (.inr ⟨problem, line, rfl⟩)
      | _ =>
        refine iff_of_false (fun ⟨_, h⟩ => nomatch h) ?_
        rintro (⟨a, h⟩ | ⟨problem, line, h⟩) <;> cases h

/-- What was read is what was loaded. -/
theorem contents_of_readNamed (h : readNamed s root load name files = .ok r) :
    r.contents.head? = (textNamed? files name).bind fun text => (load text).toOption := by
  cases htext : textNamed? files name with
  | none =>
    obtain ⟨r', hr', hcontents⟩ := @readNamed_of_no_text α s root load name files htext
    rw [← Except.ok.inj (hr'.symm.trans h), hcontents]
    rfl
  | some text =>
    rw [readNamed_of_text htext] at h
    rw [Option.bind_some]
    split at h
    next a hload => rw [← Except.ok.inj h, hload]; rfl
    next problem line hload => rw [← Except.ok.inj h, hload]; rfl
    next => cases h

/-- An error of form is told. -/
theorem mem_errors_of_readNamed (h : readNamed s root load name files = .ok r)
    {text problem : String} {line : Option Nat} (htext : textNamed? files name = some text)
    (hload : load text = .error (.malformed problem line)) :
    name ++ ": " ++ (LoadError.malformed problem line).message ∈ r.errors := by
  rw [readNamed_of_text htext, hload] at h
  rw [← Except.ok.inj h]
  exact List.mem_singleton_self _

/-- **Templates are always read.** -/
theorem exists_readTemplates (s : Settings) (root : Path) (files : List SourceFile) :
    ∃ r, readTemplates s root files = .ok r := by
  induction files with
  | nil => exact ⟨{}, rfl⟩
  | cons f files ih =>
    obtain ⟨rest, hrest⟩ := ih
    by_cases hf : isTemplate f = true
    · have hread : ∃ first, readTemplate s root f = .ok first := by
        unfold readTemplate readFile
        cases fileText f.bytes with
        | error e => exact ⟨_, rfl⟩
        | ok text => exact ⟨_, rfl⟩
      obtain ⟨first, hfirst⟩ := hread
      rw [readTemplates_cons_of_pos hf, hfirst, hrest]
      exact ⟨_, rfl⟩
    · rw [readTemplates_cons_of_neg hf, hrest]
      exact ⟨_, rfl⟩

end Reading

section Source

variable {s : Settings} {root : Path} {chart : FileNode} {c : Source}

/-- A chart that was read is made of what was read of its files. -/
theorem readSource_eq_ok_iff : readSource s root chart = .ok c ↔
    ∃ metadata values templates,
      readNamed s root Metadata.ofText chartFile (keptFiles s root chart) = .ok metadata ∧
      readNamed s root Values.ofText valuesFile (keptFiles s root chart) = .ok values ∧
      readTemplates s root (keptFiles s root chart) = .ok templates ∧
      { view :=
          { metadata := metadata.contents.head?
            values := values.contents.head?
            templates := templates.contents.map (·.1)
            helpers := helpersIn templates.contents
            files := (keptFiles s root chart).map SourceFile.name
            excluded := ((ownFiles chart).filter (isExcluded s root)).map SourceFile.name }
        pragmas := metadata.pragmas ++ values.pragmas ++ templates.pragmas
        errors := metadata.errors ++ values.errors ++ templates.errors
        count := metadata.count + values.count + templates.count } = c := by
  unfold readSource
  rw [List.partition_eq_filter_filter]
  constructor
  · intro h
    obtain ⟨metadata, hmetadata, h⟩ := bind_eq_ok_iff.mp h
    obtain ⟨values, hvalues, h⟩ := bind_eq_ok_iff.mp h
    obtain ⟨templates, htemplates, h⟩ := bind_eq_ok_iff.mp h
    exact ⟨metadata, values, templates, hmetadata, hvalues, htemplates, Except.ok.inj h⟩
  · rintro ⟨metadata, values, templates, hmetadata, hvalues, htemplates, rfl⟩
    refine bind_eq_ok_iff.mpr ⟨metadata, hmetadata, ?_⟩
    refine bind_eq_ok_iff.mpr ⟨values, hvalues, ?_⟩
    exact bind_eq_ok_iff.mpr ⟨templates, htemplates, rfl⟩

/-- **A chart is read** if what its two files of structured text hold can be recorded. -/
theorem exists_readSource_iff : (∃ c, readSource s root chart = .ok c) ↔
    (∀ text, textNamed? (keptFiles s root chart) chartFile = some text →
      IsRecorded (Metadata.ofText text)) ∧
    ∀ text, textNamed? (keptFiles s root chart) valuesFile = some text →
      IsRecorded (Values.ofText text) := by
  rw [← @exists_readNamed_iff _ s root, ← @exists_readNamed_iff _ s root]
  constructor
  · rintro ⟨c, hc⟩
    obtain ⟨metadata, values, templates, hmetadata, hvalues, -, -⟩ := readSource_eq_ok_iff.mp hc
    exact ⟨⟨metadata, hmetadata⟩, ⟨values, hvalues⟩⟩
  · rintro ⟨⟨metadata, hmetadata⟩, ⟨values, hvalues⟩⟩
    obtain ⟨templates, htemplates⟩ := exists_readTemplates s root (keptFiles s root chart)
    exact ⟨_, readSource_eq_ok_iff.mpr
      ⟨metadata, values, templates, hmetadata, hvalues, htemplates, rfl⟩⟩

/-- The rules see the values that were loaded, if they were. -/
theorem values_of_readSource (h : readSource s root chart = .ok c) :
    c.view.values = (textNamed? (keptFiles s root chart) valuesFile).bind
      fun text => (Values.ofText text).toOption := by
  obtain ⟨metadata, values, templates, -, hvalues, -, rfl⟩ := readSource_eq_ok_iff.mp h
  exact contents_of_readNamed hvalues

/-- Pragmas that are heeded switch the whole chart off. -/
def IsSwitchedOff (s : Settings) (root : Path) (chart : FileNode) : Prop :=
  s.ignorePragmas = false ∧ ∃ e ∈ filePragmas s root chart, e.2.disabled = true

/-- A chart that was read is left alone if a pragma that is heeded says so. -/
theorem disabled_of_readSource (h : readSource s root chart = .ok c) :
    c.widePragmas.disabled = true ↔ IsSwitchedOff s root chart := by
  rw [Source.disabled_widePragmas, IsSwitchedOff]
  by_cases hs : s.ignorePragmas = false
  · rw [pragmas_of_readSource hs h, and_iff_right hs]
  · refine iff_of_false ?_ fun h => hs h.1
    rintro ⟨e, he, hdisabled⟩
    -- with pragmas not heeded, the files are those that are read with them heeded
    rw [@readSource_heededBy s { s with ignorePragmas := false } root rfl rfl chart] at h
    obtain ⟨c₀, -, rfl⟩ := map_eq_ok_iff.mp h
    obtain ⟨e₀, -, rfl⟩ := List.mem_map.mp he
    unfold Settings.heeded at hdisabled
    rw [Bool.not_eq_false] at hs
    rw [if_pos hs] at hdisabled
    exact Bool.false_ne_true hdisabled

end Source

/-! ## Charts that can be reported on -/

/-- Nothing that a chart holds is beyond a report. -/
structure IsContained (s : Settings) (root : Path) (chart : FileNode) : Prop where
  /-- The description has no fault, and if it is a mapping it describes a chart. -/
  description : ∀ text, textNamed? (keptFiles s root chart) chartFile = some text →
    (∀ f, Yaml.load text ≠ .error (.fault f)) ∧
      ∀ data, Yaml.load text = .ok data → data.isMap = true → Metadata.IsDescription data
  /-- The values have no fault, and if they are a mapping it has an end and its keys have
  texts. -/
  values : ∀ text, textNamed? (keptFiles s root chart) valuesFile = some text →
    (∀ f, Yaml.loadOutlined text ≠ .error (.fault f)) ∧
      ∀ entries outline, Yaml.loadOutlined text = .ok (.map entries, outline) →
        Values.isEndless (.map entries) = false ∧ ∀ key ∈ outline.keys, key.HasText
  /-- Ports can be checked, if they are. -/
  ports : ¬ IsSwitchedOff s root chart → s.disables "HL2005" = false →
    ∀ text values, textNamed? (keptFiles s root chart) valuesFile = some text →
      Values.ofText text = .ok values → ∀ path ∈ values.paths, isPortPath path = true →
      IsPort (values.get path)
  /-- Replicas can be counted, if they are. -/
  replicas : ¬ IsSwitchedOff s root chart → s.disables "HL2008" = false →
    ∀ text values, textNamed? (keptFiles s root chart) valuesFile = some text →
      Values.ofText text = .ok values → ∀ path ∈ values.paths,
      (endsWith (lower path) "replicacount" || endsWith (lower path) "replicas") = true →
      IsCount (values.get path)

end ContainerLint.Chart

namespace ContainerLint.Linter

open ContainerLint.Chart

/-! ## Rules -/

section Rules

variable {l : Linter}

/-- The rules on charts come to an end if each active one does. -/
theorem exists_chartFailures_iff (view : View) : (∃ found, l.chartFailures view = .ok found) ↔
    ∀ r ∈ l.catalogue.rules, l.isActive r = true → ∀ check, r.check = .chart check →
      ∃ found, check r.toRuleInfo (l.optionsOf r) view = .ok found := by
  unfold chartFailures
  rw [exists_bind_pure_iff, exists_mapM_eq_ok_iff]
  refine forall_congr' fun r => forall_congr' fun _ => ?_
  cases r.check with
  | chart check =>
    dsimp only
    by_cases hactive : l.isActive r = true
    · rw [if_pos hactive, imp_iff_right hactive]
      exact ⟨fun h _ hcheck => Check.chart.inj hcheck ▸ h, fun h => h check rfl⟩
    · rw [if_neg hactive]
      exact iff_of_true ⟨[], rfl⟩ fun h => absurd h hactive
  | _ => exact iff_of_true ⟨[], rfl⟩ fun _ _ h => nomatch h

/-- The rules on templates come to an end if none of them can stop. -/
theorem exists_templateFailures_of (t : Template.Document)
    (h : ∀ r ∈ l.catalogue.rules, ∀ run, r.check = .tokens run → r.check.AlwaysEnds) :
    ∃ found, l.templateFailures t = .ok found := by
  unfold templateFailures
  rw [exists_bind_pure_iff, exists_mapM_eq_ok_iff]
  intro r hr
  have hends := h r hr
  cases hcheck : r.check with
  | tokens run =>
    rw [hcheck] at hends
    dsimp only
    by_cases hactive : l.isActive r = true
    · obtain ⟨trace, htrace⟩ := hends run rfl (l.optionsOf r) (t.tokens.map fun t => (t.line, t))
      rw [if_pos hactive, htrace]
      exact ⟨_, rfl⟩
    · rw [if_neg hactive]
      exact ⟨[], rfl⟩
  | _ => exact ⟨[], rfl⟩

/-- The rules for charts as a whole stop at a port or a count of replicas, or not at all. -/
theorem exists_chartFailures_bundled_iff (s : Settings) (view : View) :
    (∃ found, (Linter.mk Catalogue.bundled s).chartFailures view = .ok found) ↔
      (s.disables "HL2005" = false → ∃ found, badPorts view = .ok found) ∧
      (s.disables "HL2008" = false → ∃ found, zeroReplicas view = .ok found) := by
  have hactive : ∀ r : Rule, (Linter.mk Catalogue.bundled s).isActive r = true ↔
      s.disables r.code = false := fun r => Iff.of_eq (Bool.not_eq_true' _)
  rw [exists_chartFailures_iff]
  constructor
  · intro h
    constructor
    · intro hon
      obtain ⟨r, hr, hcode, hcheck⟩ := exists_portRule
      exact exists_map_eq_ok_iff.mp (h r (List.mem_append_right _ hr)
        ((hactive r).mpr (hcode ▸ hon)) _ hcheck)
    · intro hon
      obtain ⟨r, hr, hcode, hcheck⟩ := exists_replicaRule
      exact exists_map_eq_ok_iff.mp (h r (List.mem_append_right _ hr)
        ((hactive r).mpr (hcode ▸ hon)) _ hcheck)
  · rintro ⟨hports, hreplicas⟩ r hr hon check hcheck
    rw [hactive] at hon
    -- every rule always ends, or is one of the two
    have hrule := Catalogue.mem_chart_bundledRules hr (by rw [hcheck]; rfl)
    cases bundledRules_ending r hrule with
    | always hends =>
      rw [hcheck] at hends
      exact hends _ _ view
    | ports hcode hports' =>
      obtain rfl := Check.chart.inj (hcheck.symm.trans hports')
      exact exists_map_eq_ok_iff.mpr (hports (hcode ▸ hon))
    | replicas hcode hreplicas' =>
      obtain rfl := Check.chart.inj (hcheck.symm.trans hreplicas')
      exact exists_map_eq_ok_iff.mpr (hreplicas (hcode ▸ hon))

/-- The rules for tokens never stop. -/
theorem exists_templateFailures_bundled (s : Settings) (t : Template.Document) :
    ∃ found, (Linter.mk Catalogue.bundled s).templateFailures t = .ok found := by
  refine exists_templateFailures_of t fun r hr run hrun => ?_
  cases bundledRules_ending r (Catalogue.mem_chart_bundledRules hr (by rw [hrun]; rfl)) with
  | always hends => exact hends
  | ports _ hcheck => cases hrun.symm.trans hcheck
  | replicas _ hcheck => cases hrun.symm.trans hcheck

/-- Of all rules on a chart, those on ports and replicas alone can stop. -/
theorem exists_sourceFailures_bundled_iff (s : Settings) (view : View) :
    (∃ found, (Linter.mk Catalogue.bundled s).sourceFailures view = .ok found) ↔
      (s.disables "HL2005" = false → ∃ found, badPorts view = .ok found) ∧
      (s.disables "HL2008" = false → ∃ found, zeroReplicas view = .ok found) := by
  rw [← exists_chartFailures_bundled_iff]
  unfold sourceFailures
  refine (exists_bind_iff_and fun _ => ?_).trans (and_iff_left trivial)
  rw [exists_bind_pure_iff, exists_mapM_eq_ok_iff]
  exact iff_of_true (fun t _ => exists_templateFailures_bundled s t) trivial

end Rules

/-! ## Charts -/

section Charts

variable {s : Settings} {root : Path} {chart : FileNode}

/-- What the two rules that read numbers meet in a chart that was read. -/
theorem forall_values_iff {c : Source} (h : readSource s root chart = .ok c)
    {p : Values → String → Prop} :
    (∀ values, c.view.values = some values → ∀ path ∈ values.paths, p values path) ↔
      ∀ text values, textNamed? (keptFiles s root chart) valuesFile = some text →
        Values.ofText text = .ok values → ∀ path ∈ values.paths, p values path := by
  rw [values_of_readSource h]
  constructor
  · intro hall text values htext hvalues
    refine hall values ?_
    rw [htext, Option.bind_some, hvalues]
    rfl
  · intro hall values hvalues
    obtain ⟨text, htext, hload⟩ := Option.bind_eq_some_iff.mp hvalues
    refine hall text values htext ?_
    cases hload' : Values.ofText text with
    | error e => rw [hload'] at hload; cases hload
    | ok v => rw [hload'] at hload; rw [Option.some.inj hload]

/-- **A chart is linted to the end exactly if nothing in it is beyond a report.** -/
theorem exists_lintTree_iff :
    (∃ r, (Linter.mk Catalogue.bundled s).lintTree root chart = .ok r) ↔
      IsContained s root chart := by
  have hreadable := @exists_readSource_iff s root chart
  simp only [isRecorded_metadata_iff, isRecorded_values_iff] at hreadable
  unfold lintTree
  dsimp only
  cases hread : readSource s root chart with
  | error e =>
    rw [hread] at hreadable
    refine iff_of_false (fun ⟨_, h⟩ => nomatch h) fun h => ?_
    obtain ⟨c, hc⟩ := hreadable.mpr ⟨h.description, h.values⟩
    cases hc
  | ok c =>
    obtain ⟨hdescription, hvalues⟩ := hreadable.mp ⟨c, hread⟩
    have hoff := disabled_of_readSource hread
    dsimp only
    rw [exists_congr fun r => mapError_eq_ok_iff]
    by_cases hdisabled : c.widePragmas.disabled = true
    -- a chart that is switched off is read, but no rule sees it
    · rw [lintSource_of_disabled hdisabled]
      have hoff := hoff.mp hdisabled
      exact iff_of_true ⟨_, rfl⟩
        ⟨hdescription, hvalues, fun hon => absurd hoff hon, fun hon => absurd hoff hon⟩
    · have hsource : (∃ r, (Linter.mk Catalogue.bundled s).lintSource c = .ok r) ↔
          ∃ found, (Linter.mk Catalogue.bundled s).sourceFailures c.view = .ok found := by
        rw [exists_congr fun r => lintSource_eq_ok_iff hdisabled]
        exact ⟨fun ⟨_, found, hfound, _⟩ => ⟨found, hfound⟩,
          fun ⟨found, hfound⟩ => ⟨_, found, hfound, rfl⟩⟩
      -- reading is done, and of the rules only two can stop
      rw [hsource, exists_sourceFailures_bundled_iff, exists_badPorts_iff, exists_zeroReplicas_iff,
        forall_values_iff hread, forall_values_iff hread]
      have hon := mt hoff.mpr hdisabled
      exact ⟨fun h => ⟨hdescription, hvalues, fun _ => h.1, fun _ => h.2⟩,
        fun h => ⟨h.ports hon, h.replicas hon⟩⟩

/-- The errors of the files are those of the report. -/
theorem parseErrors_of_lintTree {l : Linter} {r : Report} (h : l.lintTree root chart = .ok r) :
    ∃ c, readSource l.settings root chart = .ok c ∧ r.parseErrors = c.errors := by
  unfold lintTree at h
  cases hread : readSource l.settings root chart with
  | error e => rw [hread] at h; cases h
  | ok c =>
    rw [hread] at h
    have h := mapError_eq_ok_iff.mp h
    refine ⟨c, rfl, ?_⟩
    by_cases hdisabled : c.widePragmas.disabled = true
    · rw [lintSource_of_disabled hdisabled] at h
      rw [← Except.ok.inj h]
    · obtain ⟨found, -, rfl⟩ := (lintSource_eq_ok_iff hdisabled).mp h
      rfl

theorem lintChart_of_directory {l : Linter} {w : Workspace} {entries : List (String × FileNode)}
    (h : w.find root = .ok (.directory entries)) :
    l.lintChart w root = l.lintTree root (.directory entries) := by
  unfold lintChart
  rw [h]

/-- **Which charts are linted to the end.** Exactly those of which nothing is beyond a
report; and then what is malformed about the description or the values is in it. -/
theorem lintChart_returns_iff_isContained (s : Settings) (w : Workspace) (root : Path) :
    ((∃ r, (Linter.mk Catalogue.bundled s).lintChart w root = .ok r) ↔
      ∀ entries, w.find root = .ok (.directory entries) →
        IsContained s root (.directory entries)) ∧
    ∀ r entries, (Linter.mk Catalogue.bundled s).lintChart w root = .ok r →
      w.find root = .ok (.directory entries) → ∀ text problem line,
      (textNamed? (keptFiles s root (.directory entries)) chartFile = some text →
        Metadata.ofText text = .error (.malformed problem line) →
        chartFile ++ ": " ++ (LoadError.malformed problem line).message ∈ r.parseErrors) ∧
      (textNamed? (keptFiles s root (.directory entries)) valuesFile = some text →
        Values.ofText text = .error (.malformed problem line) →
        valuesFile ++ ": " ++ (LoadError.malformed problem line).message ∈ r.parseErrors) := by
  constructor
  · by_cases hdirectory : ∃ entries, w.find root = .ok (.directory entries)
    · obtain ⟨entries, hfind⟩ := hdirectory
      rw [lintChart_of_directory hfind, exists_lintTree_iff, hfind]
      exact ⟨fun h _ heq => FileNode.directory.inj (Except.ok.inj heq) ▸ h, fun h => h entries rfl⟩
    -- what is no directory makes a report of its own
    · refine iff_of_true ?_ fun entries h => absurd ⟨entries, h⟩ hdirectory
      unfold lintChart
      split
      · exact ⟨_, rfl⟩
      next entries hfind => exact absurd ⟨entries, hfind⟩ hdirectory
      · exact ⟨_, rfl⟩
  · intro r entries h hfind text problem line
    rw [lintChart_of_directory hfind] at h
    obtain ⟨c, hread, hr⟩ := parseErrors_of_lintTree h
    obtain ⟨metadata, values, templates, hmetadata, hvalues, -, rfl⟩ :=
      readSource_eq_ok_iff.mp hread
    rw [hr]
    constructor
    · intro htext hload
      exact List.mem_append_left _ (List.mem_append_left _
        (mem_errors_of_readNamed hmetadata htext hload))
    · intro htext hload
      exact List.mem_append_left _ (List.mem_append_right _
        (mem_errors_of_readNamed hvalues htext hload))

end Charts

end ContainerLint.Linter

namespace ContainerLint

/-- A chart with a number in the place of its dependencies. -/
def Chart.countedDependencies : FileNode :=
  .directory [("Chart.yaml", .file "dependencies: 5\n".toUTF8.toList)]

theorem Chart.contents_countedDependencies :
    countedDependencies.contents = countedDependencies.walk [] :=
  List.mergeSort_of_pairwise (by decide +kernel)

/-- A number has no items, and that stops the run. -/
theorem Linter.lintChart_countedDependencies :
    (Linter.mk Catalogue.bundled {}).lintChart ⟨.ofText "/", [], Chart.countedDependencies⟩
      (.ofText "/") = .error (.chart (.badKind "'int' object is not iterable")) := by
  have htree : (Linter.mk Catalogue.bundled {}).lintChart
      ⟨.ofText "/", [], Chart.countedDependencies⟩ (.ofText "/") =
      (Linter.mk Catalogue.bundled {}).lintTree (.ofText "/") Chart.countedDependencies := rfl
  rw [htree, ← map_eq_error_iff (f := fun _ => ())]
  simp only [lintTree, Chart.readSource, Chart.ownFiles, Chart.contents_countedDependencies]
  decide +kernel

end ContainerLint
