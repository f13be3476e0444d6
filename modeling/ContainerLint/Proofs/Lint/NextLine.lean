/-
Comments of a chart's files and the failures on the lines after them.

A failure in a template stands on a line as tokens count lines, by line feeds. A comment
that starts a line switches failures off on the next line of running text. Where the two
ways of counting agree, this is the next line of the template, and the comment is heeded
for the failures there and for no others. A break that is no line feed takes them apart,
for all comments after it: the failures on the next line stay, and others go.
-/
import ContainerLint.Proofs.Lint.Exclusion
import ContainerLint.Proofs.Lint.Suppression
import ContainerLint.Proofs.Pragma.Numbering

namespace ContainerLint

open ContainerLint.Text ContainerLint.Template

namespace Chart

variable {s : Settings} {root : Path} {chart : FileNode} {f g : SourceFile}

/-! ## Files by their names -/

/-- The files of a chart have different names. -/
theorem eq_of_name_eq (hproper : chart.isProper = true) (hf : f ∈ ownFiles chart)
    (hg : g ∈ ownFiles chart) (hname : f.name = g.name) : f = g := by
  obtain ⟨hfne, hfnode, -⟩ := (mem_ownFiles_iff hproper).mp hf
  obtain ⟨hgne, hgnode, -⟩ := (mem_ownFiles_iff hproper).mp hg
  have hfnames := (FileNode.of_nodeAt?_of_isProper hproper hfnode).1
  have hgnames := (FileNode.of_nodeAt?_of_isProper hproper hgnode).1
  have hparts : f.parts = g.parts := joinWith_slash_inj hfnames hgnames hfne hgne hname
  rw [hparts, hgnode] at hfnode
  have hbytes : g.bytes = f.bytes := FileNode.file.inj (Option.some.inj hfnode)
  exact congrArg₂ SourceFile.mk hparts hbytes.symm

/-- A linted file is one of the chart's. -/
theorem mem_ownFiles_of_mem_lintedFiles (h : f ∈ lintedFiles s root chart) :
    f ∈ ownFiles chart := by
  have hkept : f ∈ keptFiles s root chart := by
    unfold lintedFiles at h
    rw [List.mem_append, List.mem_append, Option.mem_toList, Option.mem_toList] at h
    rcases h with (h | h) | h
    · exact List.mem_of_find?_eq_some h
    · exact List.mem_of_find?_eq_some h
    · exact (List.mem_filter.mp h).1
  exact (List.mem_filter.mp hkept).1

/-- The comments of a file are known by its name. -/
theorem name_of_ownPragmas? {e : String × Pragmas} (h : ownPragmas? f = some e) :
    f.name = e.1 := by
  unfold ownPragmas? at h
  split at h
  · exact (Prod.mk.inj (Option.some.inj h)).1
  · cases h

/-- **The pragmas that are found for a file are those of its text.** -/
theorem lookup_filePragmas (hproper : chart.isProper = true) (hf : f ∈ lintedFiles s root chart)
    {text : String} (htext : fileText f.bytes = .ok text) :
    (filePragmas s root chart).lookup f.name = some (Pragmas.ofChartText text) := by
  have hown : ownPragmas? f = some (f.name, Pragmas.ofChartText text) := by
    rw [ownPragmas?, htext]
  have hmem : (f.name, Pragmas.ofChartText text) ∈ filePragmas s root chart :=
    List.mem_filterMap.mpr ⟨f, hf, hown⟩
  obtain ⟨p, hp⟩ := Option.isSome_iff_exists.mp
    (List.lookup_isSome_iff.mpr ⟨_, hmem, beq_self_eq_true f.name⟩)
  -- what is found belongs to a file of that name, and there is only one
  obtain ⟨g, hg, hgown⟩ := List.mem_filterMap.mp (Source.mem_of_lookup hp)
  obtain rfl := eq_of_name_eq hproper (mem_ownFiles_of_mem_lintedFiles hg)
    (mem_ownFiles_of_mem_lintedFiles hf) (name_of_ownPragmas? hgown)
  rw [hown] at hgown
  rw [hp, (Prod.mk.inj (Option.some.inj hgown)).2]

end Chart

/-! ## Failures on the next line -/

namespace Linter

variable {c : Catalogue} {s : Settings} {root : Path} {chart : FileNode} {r r₀ : Report}

/-- What takes a failure in a file away, if no file is switched off. -/
theorem not_mem_failures_iff (hproper : chart.isProper = true)
    (h : (Linter.mk c (s.withPragmas true)).lintTree root chart = .ok r)
    (h₀ : (Linter.mk c (s.withPragmas false)).lintTree root chart = .ok r₀)
    (hon : ∀ e ∈ Chart.filePragmas s root chart, e.2.disabled = false)
    {file : Chart.SourceFile} (hfile : file ∈ Chart.lintedFiles s root chart) {text : String}
    (htext : fileText file.bytes = .ok text) {f : Failure} (hf : f ∈ r₀.failures)
    (hname : f.file = file.name) :
    f ∉ r.failures ↔
      (∃ e ∈ Chart.filePragmas s root chart, f.code ∈ e.2.fileCodes) ∨
        Pragmas.covers ((Pragmas.ofChartText text).codesAt f.line) f.code = true := by
  have hlookup := Chart.lookup_filePragmas hproper hfile htext
  rw [(lintTree_withPragmas h h₀).2 hon, List.mem_filter, and_iff_right hf, Bool.not_eq_true',
    Bool.not_eq_false, Chart.suppresses_iff, hname, hlookup]
  refine or_congr_right ⟨?_, fun hcovers => ⟨_, rfl, hcovers⟩⟩
  rintro ⟨p, hp, hcovers⟩
  rw [Option.some.inj hp]
  exact hcovers

end Linter

open Pragmas in
/-- **Comments and tokens number lines alike, up to breaks that are no line feeds.** The
line of a token is one more than the line feeds before it. What the pragmas of a text
switch off on a line is what comments name for it: comments of the template, or comments
that start a line, which name codes for the line after theirs, further down by as many
lines as there are other breaks before them. In a text without such breaks this is the
next of the lines between line feeds. And of the failures in a file of a chart, a run that
heeds pragmas leaves out those whose code, or all codes, such a comment names for their
line, besides those that are off in the whole chart. -/
theorem comments_number_lines (text : String) :
    (∃ (spans : List (List Char)) (tail : List Char), text.toList = spans.flatten ++ tail ∧
      spans.length = (Document.ofText text "").tokens.length ∧
      ∀ (i : Nat) (t : Token) (span : List Char), (Document.ofText text "").tokens[i]? = some t →
        spans[i]? = some span → t.Spans span ((spans.drop (i + 1)).flatten ++ tail) ∧
          t.line = 1 + countChar '\n' (spans.take i).flatten) ∧
    (∀ (code : String) (m : Int), code ∈ (ofChartText text).codesAt m ↔
      LineNames text code m ∨ CommentNames text code m) ∧
    (strayBreaks text.toList = 0 → ∀ (code : String) (m : Int),
      LineNames text code m ↔ NextLineNames text code m) ∧
    ∀ (c : Catalogue) (s : Settings) (w : Workspace) (root : Path) (chart : FileNode)
      (r r₀ : Report), w.find root = .ok chart → chart.isProper = true →
      (Linter.mk c (s.withPragmas true)).lintChart w root = .ok r →
      (Linter.mk c (s.withPragmas false)).lintChart w root = .ok r₀ →
      (∀ e ∈ Chart.filePragmas s root chart, e.2.disabled = false) →
      ∀ file ∈ Chart.lintedFiles s root chart, fileText file.bytes = .ok text →
      ∀ f ∈ r₀.failures, f.file = file.name →
        (f ∉ r.failures ↔
          (∃ e ∈ Chart.filePragmas s root chart, f.code ∈ e.2.fileCodes) ∨
          ∃ code, (code = f.code ∨ code = wildcard) ∧
            (LineNames text code f.line ∨ CommentNames text code f.line)) := by
  obtain ⟨spans, tail, htext, hlength, htokens, -⟩ := (tiling_scan 1 text.toList).spans
  refine ⟨⟨spans, tail, htext, hlength, htokens⟩, fun _ _ => mem_codesAt_ofChartText,
    fun hstray _ _ => lineNames_iff_nextLineNames hstray, ?_⟩
  intro c s w root chart r r₀ hfind hproper h h₀ hon file hfile hread f hf hname
  rw [← covers_codesAt_ofChartText]
  cases chart with
  | directory entries =>
    rw [Linter.lintChart_of_directory hfind] at h h₀
    exact Linter.not_mem_failures_iff hproper h h₀ hon hfile hread hf hname
  | file | link =>
    -- what is no directory has no failures
    rw [Linter.lintChart, hfind] at h₀
    rw [← Except.ok.inj h₀] at hf
    exact absurd hf List.not_mem_nil

/-- A chart with one template. -/
def Chart.ofTemplate (text : String) : FileNode :=
  .directory [("templates", .directory [("a.yaml", .file text.toUTF8.toList)])]

theorem Chart.contents_ofTemplate (text : String) :
    (ofTemplate text).contents = (ofTemplate text).walk [] :=
  List.mergeSort_of_pairwise <| List.pairwise_pair.mpr <|
    show Path.notAfter ["templates"] ["templates", "a.yaml"] = true by decide

/-- A workspace of one chart with one template. -/
def Workspace.ofTemplate (text : String) : Workspace :=
  ⟨.ofText "/", [], Chart.ofTemplate text⟩

theorem Linter.lintChart_ofTemplate (l : Linter) (text : String) :
    l.lintChart (.ofTemplate text) (.ofText "/") =
      l.lintTree (.ofText "/") (Chart.ofTemplate text) := rfl

/-- A comment for the next line, and the same text on the line after that. -/
def Pragmas.twoPrivileged : String :=
  "# helmlint-ignore HL4002\nprivileged: true\nprivileged: true\n"

/-- The failure on the next line is gone, and the one on the line after that is not. -/
theorem comments_number_lines_twoPrivileged :
    strayBreaks Pragmas.twoPrivileged.toList = 0 ∧
    Pragmas.NextLineNames Pragmas.twoPrivileged "HL4002" 2 ∧
    "HL4002" ∈ (Pragmas.ofChartText Pragmas.twoPrivileged).codesAt 2 ∧
    ∃ r r₀,
      (Linter.mk (Catalogue.bundled.subset ["HL4002"])
        (({} : Settings).withPragmas true)).lintChart (.ofTemplate Pragmas.twoPrivileged)
        (.ofText "/") = .ok r ∧
      (Linter.mk (Catalogue.bundled.subset ["HL4002"])
        (({} : Settings).withPragmas false)).lintChart (.ofTemplate Pragmas.twoPrivileged)
        (.ofText "/") = .ok r₀ ∧
      r.failures.map (fun f => (f.code, f.line)) = [("HL4002", 3)] ∧
      r₀.failures.map (fun f => (f.code, f.line)) = [("HL4002", 2), ("HL4002", 3)] ∧
      ∀ f ∈ r₀.failures, f.file = "templates/a.yaml" →
        (f ∉ r.failures ↔
          (∃ e ∈ Chart.filePragmas {} (.ofText "/") (Chart.ofTemplate Pragmas.twoPrivileged),
            f.code ∈ e.2.fileCodes) ∨
          ∃ code, (code = f.code ∨ code = Pragmas.wildcard) ∧
            (Pragmas.LineNames Pragmas.twoPrivileged code f.line ∨
              Pragmas.CommentNames Pragmas.twoPrivileged code f.line)) := by
  obtain ⟨-, hcodes, hnext, hreports⟩ := comments_number_lines Pragmas.twoPrivileged
  have hstray : strayBreaks Pragmas.twoPrivileged.toList = 0 := by decide
  have hnames : Pragmas.NextLineNames Pragmas.twoPrivileged "HL4002" 2 :=
    ⟨0, "# helmlint-ignore HL4002".toList, by decide +kernel, by decide +kernel, rfl⟩
  have hfailures : ((Linter.mk (Catalogue.bundled.subset ["HL4002"])
      (({} : Settings).withPragmas true)).lintChart (.ofTemplate Pragmas.twoPrivileged)
        (.ofText "/")).map (fun r => r.failures.map fun f => (f.code, f.line)) =
        .ok [("HL4002", 3)] := by
    simp only [Linter.lintChart_ofTemplate, Linter.lintTree, Linter.lintSource, Linter.conclude,
      Report.sort, Failure.sorted_eq_insertionSort, Chart.readSource, Chart.ownFiles,
      Chart.contents_ofTemplate]
    decide +kernel
  have hfailures₀ : ((Linter.mk (Catalogue.bundled.subset ["HL4002"])
      (({} : Settings).withPragmas false)).lintChart (.ofTemplate Pragmas.twoPrivileged)
        (.ofText "/")).map (fun r => r.failures.map fun f => (f.code, f.line)) =
        .ok [("HL4002", 2), ("HL4002", 3)] := by
    simp only [Linter.lintChart_ofTemplate, Linter.lintTree, Linter.lintSource, Linter.conclude,
      Report.sort, Failure.sorted_eq_insertionSort, Chart.readSource, Chart.ownFiles,
      Chart.contents_ofTemplate]
    decide +kernel
  obtain ⟨r, hr, hfailures⟩ := map_eq_ok_iff.mp hfailures
  obtain ⟨r₀, hr₀, hfailures₀⟩ := map_eq_ok_iff.mp hfailures₀
  refine ⟨hstray, hnames, (hcodes _ _).mpr (.inl ((hnext hstray _ _).mpr hnames)), r, r₀, hr, hr₀,
    hfailures, hfailures₀, fun f hf hname => ?_⟩
  refine hreports _ {} _ (.ofText "/") _ r r₀ rfl (by decide +kernel) hr hr₀ ?_
    ⟨["templates", "a.yaml"], Pragmas.twoPrivileged.toUTF8.toList⟩ ?_ ?_ f hf hname
  · simp only [Chart.filePragmas, Chart.lintedFiles, Chart.keptFiles, Chart.ownFiles,
      Chart.contents_ofTemplate]
    decide +kernel
  · simp only [Chart.lintedFiles, Chart.keptFiles, Chart.ownFiles, Chart.contents_ofTemplate]
    decide +kernel
  · decide +kernel

/-- A form feed before a comment for the next line. -/
def Pragmas.afterFormFeed : String :=
  "a\x0c\n# helmlint-ignore HL4002\nprivileged: true\n"

/-- The comment is on the second of the lines between line feeds and names a code for the
third; but the code is off on the fourth, and the failure on the third is reported. -/
theorem comments_number_lines_afterFormFeed :
    Pragmas.NextLineNames Pragmas.afterFormFeed "HL4002" 3 ∧
    (Pragmas.ofChartText Pragmas.afterFormFeed).lineCodes = [(4, ["HL4002"])] ∧
    ((Linter.mk (Catalogue.bundled.subset ["HL4002"]) {}).lintChart
      (.ofTemplate Pragmas.afterFormFeed) (.ofText "/")).map
        (fun r => r.failures.map fun f => (f.code, f.line)) = .ok [("HL4002", 3)] := by
  refine ⟨⟨1, "# helmlint-ignore HL4002".toList, by decide +kernel, by decide +kernel, rfl⟩,
    by decide +kernel, ?_⟩
  simp only [Linter.lintChart_ofTemplate, Linter.lintTree, Linter.lintSource, Linter.conclude,
    Report.sort, Failure.sorted_eq_insertionSort, Chart.readSource, Chart.ownFiles,
    Chart.contents_ofTemplate]
  decide +kernel

end ContainerLint
