/-
What settings change in the reading of a chart.

Settings say which files are left out, and whether pragmas are heeded. The second changes
nothing but the pragmas that come with the files: the same files are read in the same
order, with the same contents, errors and counts, and reading stops at the same error.

With pragmas heeded, what comes with the files are the pragmas that the text of each
says, for the two files of structured text and for all templates that can be read.
-/
import ContainerLint.Lint.Chart
import ContainerLint.Proofs.Pragma.Chart
import ContainerLint.Proofs.Result

namespace ContainerLint.Chart

open ContainerLint.Text

/-! ## Files and what they say -/

/-- The files of a chart that settings leave in. -/
def keptFiles (s : Settings) (root : Path) (chart : FileNode) : List SourceFile :=
  (ownFiles chart).filter (!isExcluded s root ·)

/-- The files of a chart that are linted: its description, its values and its templates. -/
def lintedFiles (s : Settings) (root : Path) (chart : FileNode) : List SourceFile :=
  let files := keptFiles s root chart
  (files.find? (·.name == chartFile)).toList ++ (files.find? (·.name == valuesFile)).toList ++
    files.filter isTemplate

/-- The name of a file and the pragmas in its text, if it can be read. -/
def ownPragmas? (f : SourceFile) : Option (String × Pragmas) :=
  match fileText f.bytes with
  | .ok text => some (f.name, Pragmas.ofChartText text)
  | .error _ => none

/-- The pragmas of the files that are linted, by the names of the files. -/
def filePragmas (s : Settings) (root : Path) (chart : FileNode) : List (String × Pragmas) :=
  (lintedFiles s root chart).filterMap ownPragmas?

/-- The pragmas of the files of a chart are those of charts. -/
theorem ofChart_of_mem_filePragmas {s : Settings} {root : Path} {chart : FileNode}
    {entry : String × Pragmas} (h : entry ∈ filePragmas s root chart) : entry.2.OfChart := by
  obtain ⟨f, -, hf⟩ := List.mem_filterMap.mp h
  unfold ownPragmas? at hf
  split at hf
  · rw [← Option.some.inj hf]
    exact Pragmas.ofChart_ofChartText _
  · cases hf

/-! ## Templates one after the other -/

section Templates

variable {s : Settings} {root : Path} {f : SourceFile} {files : List SourceFile}

theorem readTemplates_cons_of_pos (hf : isTemplate f = true) :
    readTemplates s root (f :: files) = (do
      let first ← readTemplate s root f
      return first.append (← readTemplates s root files)) := by
  rw [readTemplates]
  dsimp only
  rw [if_pos hf]

/-- Files that are no templates are passed over. -/
theorem readTemplates_cons_of_neg (hf : ¬ isTemplate f = true) :
    readTemplates s root (f :: files) = readTemplates s root files := by
  rw [readTemplates]
  dsimp only
  rw [if_neg hf]
  cases readTemplates s root files with
  | error e => rfl
  | ok rest =>
    refine congrArg Except.ok ?_
    simp only [Reading.append, List.nil_append, Nat.zero_add]

end Templates

/-! ## Heeding pragmas -/

/-- The pragmas by file that settings heed. -/
def heededBy (s : Settings) (pragmas : List (String × Pragmas)) : List (String × Pragmas) :=
  pragmas.map fun entry => (entry.1, s.heeded entry.2)

/-- What was read, with the pragmas that settings heed. -/
def Reading.heededBy {α : Type} (s : Settings) (r : Reading α) : Reading α :=
  { r with pragmas := Chart.heededBy s r.pragmas }

/-- The chart that was read, with the pragmas that settings heed. -/
def Source.heededBy (s : Settings) (c : Source) : Source :=
  { c with pragmas := Chart.heededBy s c.pragmas }

section Heeding

variable {α : Type} {s s₀ : Settings} (root : Path)

theorem heededBy_append (s : Settings) (ps qs : List (String × Pragmas)) :
    heededBy s (ps ++ qs) = heededBy s ps ++ heededBy s qs :=
  List.map_append

/-- Settings that heed pragmas leave them as they are. -/
theorem heeded_of_heeds (hs₀ : s₀.ignorePragmas = false) (p : Pragmas) : s₀.heeded p = p := by
  unfold Settings.heeded
  rw [hs₀, if_neg Bool.false_ne_true]

/-- What is read of a file of structured text depends on the settings for its pragmas alone. -/
theorem readStructured_heededBy (hs₀ : s₀.ignorePragmas = false)
    (load : String → Except LoadError α) (f : SourceFile) :
    readStructured s root load f = (readStructured s₀ root load f).map (Reading.heededBy s) := by
  unfold readStructured readFile
  cases fileText f.bytes with
  | error e => rfl
  | ok text =>
    dsimp only
    rw [heeded_of_heeds hs₀]
    cases load text with
    | ok a => rfl
    | error e => cases e <;> rfl

theorem readNamed_heededBy (hs₀ : s₀.ignorePragmas = false)
    (load : String → Except LoadError α) (name : String) (files : List SourceFile) :
    readNamed s root load name files =
      (readNamed s₀ root load name files).map (Reading.heededBy s) := by
  unfold readNamed
  cases files.find? fun f => f.name == name with
  | none => rfl
  | some f => exact readStructured_heededBy root hs₀ load f

theorem readTemplate_heededBy (hs₀ : s₀.ignorePragmas = false) (f : SourceFile) :
    readTemplate s root f = (readTemplate s₀ root f).map (Reading.heededBy s) := by
  unfold readTemplate readFile
  cases fileText f.bytes with
  | error e => rfl
  | ok text =>
    dsimp only
    rw [heeded_of_heeds hs₀]
    rfl

/-- And so does what is read of all templates. -/
theorem readTemplates_heededBy (hs₀ : s₀.ignorePragmas = false) (files : List SourceFile) :
    readTemplates s root files = (readTemplates s₀ root files).map (Reading.heededBy s) := by
  induction files with
  | nil => rfl
  | cons f files ih =>
    by_cases hf : isTemplate f = true
    · rw [readTemplates_cons_of_pos hf, readTemplates_cons_of_pos hf,
        readTemplate_heededBy root hs₀, ih]
      cases readTemplate s₀ root f with
      | error e => rfl
      | ok first =>
        cases readTemplates s₀ root files with
        | error e => rfl
        | ok rest =>
          refine congrArg Except.ok ?_
          simp only [Reading.append, Reading.heededBy, heededBy_append]
    · rw [readTemplates_cons_of_neg hf, readTemplates_cons_of_neg hf, ih]

/-- **Whether pragmas are heeded changes the pragmas and nothing else.** -/
theorem readSource_heededBy (hs₀ : s₀.ignorePragmas = false) (hexclude : s.exclude = s₀.exclude)
    (chart : FileNode) :
    readSource s root chart = (readSource s₀ root chart).map (Source.heededBy s) := by
  -- the files are the same, so each part is read with the pragmas that are heeded
  have hexcluded : isExcluded s root = isExcluded s₀ root := by
    unfold isExcluded Settings.excludes
    rw [hexclude]
  unfold readSource
  rw [hexcluded]
  dsimp only
  rw [readNamed_heededBy (s := s) root hs₀ Metadata.ofText,
    readNamed_heededBy (s := s) root hs₀ Values.ofText, readTemplates_heededBy (s := s) root hs₀]
  cases readNamed s₀ root Metadata.ofText chartFile _ with
  | error e => rfl
  | ok metadata =>
    cases readNamed s₀ root Values.ofText valuesFile _ with
    | error e => rfl
    | ok values =>
      cases readTemplates s₀ root _ with
      | error e => rfl
      | ok templates =>
        refine congrArg Except.ok ?_
        simp only [Source.heededBy, Reading.heededBy, heededBy_append]

end Heeding

/-! ## The pragmas that come with files -/

section Pragmas

variable {α : Type} {s : Settings} {root : Path}

/-- What is read of one file has the pragmas of its text. -/
theorem pragmas_of_readFile {ε : Type} {f : SourceFile}
    {read : String → Except ε (List α × Pragmas × List String)} {r : Reading α}
    (hread : ∀ text parts, read text = .ok parts → parts.2.1 = Pragmas.ofChartText text)
    (h : readFile root f read = .ok r) : r.pragmas = (ownPragmas? f).toList := by
  unfold readFile at h
  unfold ownPragmas?
  cases htext : fileText f.bytes with
  | error e =>
    rw [htext] at h
    rw [← Except.ok.inj h]
    rfl
  | ok text =>
    rw [htext] at h
    obtain ⟨parts, hparts, h⟩ := bind_eq_ok_iff.mp h
    have hpragmas := hread text parts hparts
    rw [← Except.ok.inj h]
    dsimp only
    rw [hpragmas]
    rfl

/-- The pragmas that are read are those of the file of the name. -/
theorem pragmas_of_readNamed (hs : s.ignorePragmas = false) {load : String → Except LoadError α}
    {name : String} {files : List SourceFile} {r : Reading α}
    (h : readNamed s root load name files = .ok r) :
    r.pragmas = (files.find? (·.name == name)).toList.filterMap ownPragmas? := by
  unfold readNamed at h
  cases hfind : files.find? fun f => f.name == name with
  | none =>
    rw [hfind] at h
    rw [← Except.ok.inj h]
    rfl
  | some f =>
    rw [hfind] at h
    rw [Option.toList_some, List.filterMap_eq_flatMap_toList, List.flatMap_singleton]
    refine pragmas_of_readFile (fun text parts hparts => ?_) h
    rw [heeded_of_heeds hs] at hparts
    split at hparts
    · rw [← Except.ok.inj hparts]
    · rw [← Except.ok.inj hparts]
    · cases hparts

/-- The pragmas that are read are those of the templates, in order. -/
theorem pragmas_of_readTemplates (hs : s.ignorePragmas = false) {files : List SourceFile}
    {r : Reading (Template.Document × String)} (h : readTemplates s root files = .ok r) :
    r.pragmas = (files.filter isTemplate).filterMap ownPragmas? := by
  induction files generalizing r with
  | nil =>
    rw [← Except.ok.inj h]
    rfl
  | cons f files ih =>
    by_cases hf : isTemplate f = true
    · rw [readTemplates_cons_of_pos hf] at h
      obtain ⟨first, hfirst, h⟩ := bind_eq_ok_iff.mp h
      obtain ⟨rest, hrest, h⟩ := bind_eq_ok_iff.mp h
      -- pragmas are found in the text of a template as in any other text
      have hown : first.pragmas = (ownPragmas? f).toList := by
        refine pragmas_of_readFile (fun text parts hparts => ?_) hfirst
        rw [← Except.ok.inj hparts, heeded_of_heeds hs]
        exact Pragmas.ofTokens_document text f.name
      rw [List.filter_cons_of_pos hf, List.filterMap_eq_flatMap_toList, List.flatMap_cons,
        ← List.filterMap_eq_flatMap_toList, ← ih hrest, ← hown, ← Except.ok.inj h]
      rfl
    · rw [readTemplates_cons_of_neg hf] at h
      rw [List.filter_cons_of_neg hf]
      exact ih h

/-- **A chart that was read has the pragmas of all its files that are linted.** -/
theorem pragmas_of_readSource (hs : s.ignorePragmas = false) {chart : FileNode} {c : Source}
    (h : readSource s root chart = .ok c) : c.pragmas = filePragmas s root chart := by
  unfold readSource at h
  rw [List.partition_eq_filter_filter] at h
  obtain ⟨metadata, hmetadata, h⟩ := bind_eq_ok_iff.mp h
  obtain ⟨values, hvalues, h⟩ := bind_eq_ok_iff.mp h
  obtain ⟨templates, htemplates, h⟩ := bind_eq_ok_iff.mp h
  rw [← Except.ok.inj h]
  unfold filePragmas lintedFiles
  rw [List.filterMap_append, List.filterMap_append]
  exact congrArg₂ _ (congrArg₂ _ (pragmas_of_readNamed hs hmetadata)
    (pragmas_of_readNamed hs hvalues)) (pragmas_of_readTemplates hs htemplates)

end Pragmas

end ContainerLint.Chart
