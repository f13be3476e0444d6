/-
What is found below a directory that is no chart.

Two walks go through the directory. The first finds charts: directories that hold a
description, unless a directory named `charts` is somewhere on the way to them. The second
finds build files that are not left out, and passes over all that is inside of a chart
that the first one has found. Nothing is found twice, also by its text.

A chart below the `charts` directory of another chart is there for that chart and is
linted on its own nowhere. To be passed over, though, a chart does not need such a chart
around it: the name of the directory is enough. So a collection of charts that are kept
in a directory `charts` is missed as a whole. The two come to the same exactly if, of
what holds a description, that has `charts` on the way to it what is there for another
chart.
-/
import ContainerLint.Lint.Batch
import ContainerLint.Proofs.Files.Workspace
import ContainerLint.Proofs.Result

namespace ContainerLint

open ContainerLint.Text

/-! ## Charts and build files below a directory -/

/-- A path in the tree of a directory is that of a directory with a description. -/
def HoldsChart (w : Workspace) (d : Path) (node : FileNode) (parts : List String) : Prop :=
  (∃ entries, node.nodeAt? parts = some (.directory entries)) ∧
    w.hasPath ((d.append parts).append [Chart.chartFile]) = true

/-- A path leads below the `charts` directory of a directory with a description. -/
def IsVendored (w : Workspace) (p : Path) : Prop :=
  ∃ outer inner, inner ≠ [] ∧ p.parts = outer ++ "charts" :: inner ∧
    w.hasPath ⟨p.anchor, outer ++ [Chart.chartFile]⟩ = true

/-- What there is to lint below a directory, if it is known which directories are charts:
those, and the build files that are not left out and are in none of them. -/
inductive IsTarget (s : Settings) (w : Workspace) (d : Path) (node : FileNode)
    (isChart : List String → Prop) : Path → Prop
  | chart {parts : List String} (hchart : isChart parts) :
      IsTarget s w d node isChart (d.append parts)
  | buildFile {parts : List String} (hne : parts ≠ [])
      (hthere : (node.nodeAt? parts).isSome = true)
      (hname : isDockerfileName (parts.getLastD "") = true)
      (hfile : w.isFile (d.append parts) = true)
      (hkept : s.excludes (d.append parts).render = false)
      (hfree : ∀ chart, isChart chart → ¬ chart <+: parts) :
      IsTarget s w d node isChart (d.append parts)

section Directory

variable {s : Settings} {w : Workspace} {d p : Path} {node : FileNode} {parts : List String}

/-- A directory that holds a chart is no file. -/
theorem isFile_eq_false_of_holdsChart (hw : w.tree.isProper = true) (hfind : w.find d = .ok node)
    (h : HoldsChart w d node parts) : w.isFile (d.append parts) = false := by
  obtain ⟨⟨entries, hentries⟩, -⟩ := h
  have hdirectory : w.find (d.append parts) = .ok (.directory entries) :=
    w.find_append_of_nodeAt? hw hfind hentries fun _ h => by cases h
  unfold Workspace.isFile
  rw [hdirectory]

/-- **What is found tells which directories are taken for charts.** -/
theorem isTarget_congr_iff (hw : w.tree.isProper = true) (hfind : w.find d = .ok node)
    {isChart isChart' : List String → Prop} (h : ∀ parts, isChart parts → HoldsChart w d node parts)
    (h' : ∀ parts, isChart' parts → HoldsChart w d node parts) :
    (∀ p, IsTarget s w d node isChart p ↔ IsTarget s w d node isChart' p) ↔
      ∀ parts, isChart parts ↔ isChart' parts := by
  -- a directory that is found is found as a chart, since it is no file
  have hchart : ∀ {c : List String → Prop} {parts : List String}, HoldsChart w d node parts →
      IsTarget s w d node c (d.append parts) → c parts := by
    intro c parts hholds htarget
    generalize hp : d.append parts = p at htarget
    cases htarget with
    | chart hc => exact Path.append_inj.mp hp ▸ hc
    | buildFile _ _ _ hfile =>
      rw [← hp, isFile_eq_false_of_holdsChart hw hfind hholds] at hfile
      cases hfile
  constructor
  · intro hsame parts
    constructor
    · intro hc
      exact hchart (h parts hc) ((hsame _).mp (.chart hc))
    · intro hc
      exact hchart (h' parts hc) ((hsame _).mpr (.chart hc))
  · intro hsame p
    rw [funext fun parts => propext (hsame parts)]

/-! ## The walks -/

/-- Filtering while mapping keeps the order. -/
theorem filterMap_sublist_map {α β : Type} {f : α → Option β} {g : α → β}
    (h : ∀ a b, f a = some b → b = g a) (as : List α) : (as.filterMap f).Sublist (as.map g) := by
  induction as with
  | nil => exact .slnil
  | cons a as ih =>
    rw [List.map_cons]
    cases ha : f a with
    | none =>
      rw [List.filterMap_cons_none ha]
      exact ih.cons _
    | some b =>
      rw [List.filterMap_cons_some ha, h a b ha]
      exact ih.cons_cons _

/-- The directories found are all directories there are. -/
theorem mem_directoriesIn_iff {entries : List (String × FileNode)}
    (h : (FileNode.directory entries).isProper = true) :
    parts ∈ directoriesIn (.directory entries) ↔
      ∃ inner, (FileNode.directory entries).nodeAt? parts = some (.directory inner) := by
  unfold directoriesIn
  rw [List.mem_cons, List.mem_filterMap]
  constructor
  · rintro (rfl | ⟨⟨path, n⟩, hmem, hparts⟩)
    · exact ⟨entries, rfl⟩
    · obtain ⟨-, hn⟩ := (FileNode.mem_contents_iff h).mp hmem
      cases n with
      | file | link => cases hparts
      | directory inner =>
        cases hparts
        exact ⟨inner, hn⟩
  · rintro ⟨inner, hinner⟩
    by_cases hparts : parts = []
    · exact .inl hparts
    · have hmem := (FileNode.mem_contents_iff h).mpr ⟨hparts, hinner⟩
      exact .inr ⟨(parts, .directory inner), hmem, rfl⟩

/-- No directory is found twice. -/
theorem nodup_directoriesIn (h : node.isProper = true) : (directoriesIn node).Nodup := by
  unfold directoriesIn
  refine List.nodup_cons.mpr ⟨fun hmem => ?_, ?_⟩
  · obtain ⟨⟨path, n⟩, hmem, hparts⟩ := List.mem_filterMap.mp hmem
    cases n with
    | file | link => cases hparts
    | directory inner =>
      cases hparts
      exact ((FileNode.mem_contents_iff h).mp hmem).1 rfl
  · refine (filterMap_sublist_map (g := Prod.fst) (fun e parts he => ?_) _).nodup
      (FileNode.nodup_contents h)
    obtain ⟨path, n⟩ := e
    cases n with
    | file | link => cases he
    | directory inner =>
      cases he
      rfl

/-- **The first walk** finds what holds a description and has no `charts` on the way. -/
theorem mem_chartsIn_iff {entries : List (String × FileNode)}
    (h : (FileNode.directory entries).isProper = true) :
    p ∈ chartsIn w d (.directory entries) ↔
      ∃ parts, (HoldsChart w d (.directory entries) parts ∧ "charts" ∉ parts.dropLast) ∧
        d.append parts = p := by
  unfold chartsIn
  rw [List.mem_map]
  refine exists_congr fun parts => and_congr_left fun _ => ?_
  rw [List.mem_filter, List.mem_mergeSort, List.mem_filter, mem_directoriesIn_iff h, HoldsChart,
    Path.append_append]
  simp only [Bool.not_eq_true', List.contains_eq_mem, decide_eq_false_iff_not]

/-- No chart is found twice. -/
theorem nodup_chartsIn (h : node.isProper = true) : (chartsIn w d node).Nodup := by
  unfold chartsIn
  refine List.Nodup.map (fun _ _ => Path.append_inj.mp) (List.Nodup.filter _ ?_)
  exact (List.mergeSort_perm _ _).nodup_iff.mpr ((nodup_directoriesIn h).filter _)

/-- A directory is above another if its names are the first of the other's. -/
theorem isAbove_append_iff {names others : List String} :
    (d.append names).isAbove (d.append others) = true ↔
      names.length < others.length ∧ names <+: others := by
  unfold Path.isAbove Path.append
  rw [Bool.and_eq_true, Bool.and_eq_true, beq_self_eq_true, decide_eq_true_iff,
    List.isPrefixOf_iff_prefix, List.prefix_append_right_inj, List.length_append,
    List.length_append, Nat.add_lt_add_iff_left]
  simp only [true_and]

/-- **The second walk** finds the build files that are in none of the charts. -/
theorem mem_dockerfilesIn_iff (h : node.isProper = true) {charts : List Path} :
    p ∈ dockerfilesIn s w d node charts ↔
      ∃ parts, (parts ≠ [] ∧ (node.nodeAt? parts).isSome = true ∧
        isDockerfileName (parts.getLastD "") = true ∧ w.isFile (d.append parts) = true ∧
        s.excludes (d.append parts).render = false ∧
        ∀ chart ∈ charts, chart.isAbove (d.append parts) = false) ∧ d.append parts = p := by
  unfold dockerfilesIn
  rw [List.mem_filterMap]
  constructor
  · rintro ⟨⟨parts, n⟩, hmem, hp⟩
    obtain ⟨hne, hn⟩ := (FileNode.mem_contents_iff h).mp hmem
    dsimp only at hp
    split at hp
    next hcondition =>
      simp only [Bool.and_eq_true, Bool.not_eq_true', List.any_eq_false, Bool.not_eq_true]
        at hcondition
      obtain ⟨⟨⟨hname, hfile⟩, hkept⟩, hfree⟩ := hcondition
      exact ⟨parts, ⟨hne, by rw [hn]; rfl, hname, hfile, hkept, hfree⟩, Option.some.inj hp⟩
    next => cases hp
  · rintro ⟨parts, ⟨hne, hthere, hname, hfile, hkept, hfree⟩, rfl⟩
    obtain ⟨n, hn⟩ := Option.isSome_iff_exists.mp hthere
    refine ⟨(parts, n), (FileNode.mem_contents_iff h).mpr ⟨hne, hn⟩, if_pos ?_⟩
    simp only [Bool.and_eq_true, Bool.not_eq_true', List.any_eq_false, Bool.not_eq_true]
    exact ⟨⟨⟨hname, hfile⟩, hkept⟩, hfree⟩

/-- No Dockerfile is found twice. -/
theorem nodup_dockerfilesIn (h : node.isProper = true) (charts : List Path) :
    (dockerfilesIn s w d node charts).Nodup := by
  have hsublist : (dockerfilesIn s w d node charts).Sublist
      (node.contents.map fun e => d.append e.1) := by
    refine filterMap_sublist_map (fun e p he => ?_) _
    obtain ⟨parts, n⟩ := e
    dsimp only at he
    split at he
    next => exact (Option.some.inj he).symm
    next => cases he
  refine hsublist.nodup ?_
  rw [← Function.comp_def d.append Prod.fst, ← List.map_map]
  exact (FileNode.nodup_contents h).map fun _ _ => Path.append_inj.mp

end Directory

/-! ## Targets -/

section Targets

variable {l : Linter} {w : Workspace} {d p : Path} {entries : List (String × FileNode)}

/-- Below a directory that is no chart there are its charts and its Dockerfiles. -/
theorem targets_of_plain (hfind : w.find d = .ok (.directory entries))
    (hplain : w.hasPath (d.append [Chart.chartFile]) = false) :
    l.targets w [d] = chartsIn w d (.directory entries) ++
      dockerfilesIn l.settings w d (.directory entries) (chartsIn w d (.directory entries)) := by
  have hdirectory : w.isDirectory d = true := by
    unfold Workspace.isDirectory
    rw [hfind]
  have hfile : w.isFile (d.append [Chart.chartFile]) = false := by
    unfold Workspace.hasPath at hplain
    unfold Workspace.isFile
    split at hplain
    next => cases hplain
    next e he => rw [he]
  unfold Linter.targets
  rw [List.flatMap_cons, List.flatMap_nil, List.append_nil, targetsOf, hdirectory, hfile, discover,
    hfind]
  rfl

/-- **What is found**: charts with no `charts` on the way, and the build files in none of
them. -/
theorem mem_targets_iff (hw : w.tree.isProper = true)
    (hfind : w.find d = .ok (.directory entries))
    (hplain : w.hasPath (d.append [Chart.chartFile]) = false) :
    p ∈ l.targets w [d] ↔ IsTarget l.settings w d (.directory entries)
      (fun parts => HoldsChart w d (.directory entries) parts ∧ "charts" ∉ parts.dropLast) p := by
  have hproper := Workspace.isProper_of_find hw hfind
  rw [targets_of_plain hfind hplain, List.mem_append, mem_chartsIn_iff hproper,
    mem_dockerfilesIn_iff hproper]
  have hfree : ∀ parts, w.isFile (d.append parts) = true →
      ((∀ chart ∈ chartsIn w d (.directory entries), chart.isAbove (d.append parts) = false) ↔
        ∀ chart, HoldsChart w d (.directory entries) chart ∧ "charts" ∉ chart.dropLast →
          ¬ chart <+: parts) := by
    intro parts hfile
    constructor
    · intro habove chart hchart hpre
      have hfound := habove _ ((mem_chartsIn_iff hproper).mpr ⟨chart, hchart, rfl⟩)
      -- the chart is a directory and the target a file, so that it is strictly above
      have hne : chart ≠ parts := by
        rintro rfl
        rw [isFile_eq_false_of_holdsChart hw hfind hchart.1] at hfile
        cases hfile
      have hlength : chart.length < parts.length :=
        lt_of_le_of_ne hpre.length_le fun heq => hne (hpre.eq_of_length heq)
      rw [isAbove_append_iff.mpr ⟨hlength, hpre⟩] at hfound
      cases hfound
    · intro hnone chart hchart
      obtain ⟨names, hnames, rfl⟩ := (mem_chartsIn_iff hproper).mp hchart
      rw [Bool.eq_false_iff]
      intro habove
      exact hnone names hnames (isAbove_append_iff.mp habove).2
  constructor
  · rintro (⟨parts, hchart, rfl⟩ | ⟨parts, ⟨hne, hthere, hname, hfile, hkept, habove⟩, rfl⟩)
    · exact .chart hchart
    · exact .buildFile hne hthere hname hfile hkept ((hfree parts hfile).mp habove)
  · intro htarget
    cases htarget with
    | chart hchart => exact .inl ⟨_, hchart, rfl⟩
    | buildFile hne hthere hname hfile hkept hnone =>
      exact .inr ⟨_, ⟨hne, hthere, hname, hfile, hkept, (hfree _ hfile).mpr hnone⟩, rfl⟩

/-- Together they are found once each. -/
theorem nodup_targets (hw : w.tree.isProper = true) (hfind : w.find d = .ok (.directory entries))
    (hplain : w.hasPath (d.append [Chart.chartFile]) = false) : (l.targets w [d]).Nodup := by
  have hproper := Workspace.isProper_of_find hw hfind
  rw [targets_of_plain hfind hplain]
  refine List.nodup_append.mpr ⟨nodup_chartsIn hproper, nodup_dockerfilesIn hproper _, ?_⟩
  rintro p hchart _ hfile rfl
  -- a chart is a directory, and a build file is none
  obtain ⟨parts, ⟨hholds, -⟩, rfl⟩ := (mem_chartsIn_iff hproper).mp hchart
  obtain ⟨others, ⟨-, -, -, hisFile, -⟩, hsame⟩ := (mem_dockerfilesIn_iff hproper).mp hfile
  rw [hsame, isFile_eq_false_of_holdsChart hw hfind hholds] at hisFile
  cases hisFile

/-- A target is below the directory, under names of entries. -/
theorem exists_of_mem_targets (hw : w.tree.isProper = true)
    (hfind : w.find d = .ok (.directory entries))
    (hplain : w.hasPath (d.append [Chart.chartFile]) = false) (hp : p ∈ l.targets w [d]) :
    ∃ parts, parts ≠ [] ∧ (∀ name ∈ parts, isEntryName name = true) ∧ p = d.append parts := by
  have hproper := Workspace.isProper_of_find hw hfind
  cases (mem_targets_iff hw hfind hplain).mp hp with
  | @chart parts hchart =>
    obtain ⟨⟨⟨inner, hinner⟩, hpath⟩, -⟩ := hchart
    refine ⟨parts, ?_, (FileNode.of_nodeAt?_of_isProper hproper hinner).1, rfl⟩
    rintro rfl
    rw [Path.append_append, List.nil_append, hplain] at hpath
    cases hpath
  | @buildFile parts hne hthere =>
    obtain ⟨n, hn⟩ := Option.isSome_iff_exists.mp hthere
    exact ⟨parts, hne, (FileNode.of_nodeAt?_of_isProper hproper hn).1, rfl⟩

/-! ## Texts of targets -/

/-- Different targets are written differently. -/
theorem render_append_inj {parts others : List String}
    (hparts : ∀ name ∈ parts, isEntryName name = true)
    (hothers : ∀ name ∈ others, isEntryName name = true) (hne : parts ≠ []) (hne' : others ≠ [])
    (h : (d.append parts).render = (d.append others).render) : parts = others := by
  have hrender : ∀ names : List String, names ≠ [] → (d.append names).render.toList =
      d.anchor.toList ++ join ['/'] ((d.parts ++ names).map String.toList) := by
    intro names hnames
    have hnotDot :
        ¬ ((d.append names).anchor.isEmpty && (d.append names).parts.isEmpty) = true := by
      rw [Bool.and_eq_true, List.isEmpty_iff]
      intro hempty
      exact hnames (List.append_eq_nil_iff.mp hempty.2).2
    unfold Path.render
    rw [if_neg hnotDot, String.toList_append, joinWith, String.toList_ofList]
    rfl
  have hlists := congrArg String.toList h
  rw [hrender parts hne, hrender others hne', List.append_cancel_left_eq, List.map_append,
    List.map_append] at hlists
  refine joinWith_slash_inj hparts hothers hne hne' (congrArg String.ofList ?_)
  by_cases hd : d.parts = []
  · rw [hd] at hlists
    exact hlists
  · rw [join_append _ (by simpa using hd) (by simpa using hne),
      join_append _ (by simpa using hd) (by simpa using hne'), List.append_cancel_left_eq] at hlists
    exact hlists

/-- No target takes the place of another in the results. -/
theorem nodup_render_targets (hw : w.tree.isProper = true)
    (hfind : w.find d = .ok (.directory entries))
    (hplain : w.hasPath (d.append [Chart.chartFile]) = false) :
    ((l.targets w [d]).map Path.render).Nodup := by
  refine List.Nodup.map_on (fun p hp q hq hsame => ?_) (nodup_targets hw hfind hplain)
  obtain ⟨parts, hne, hparts, rfl⟩ := exists_of_mem_targets hw hfind hplain hp
  obtain ⟨others, hne', hothers, rfl⟩ := exists_of_mem_targets hw hfind hplain hq
  rw [render_append_inj hparts hothers hne hne' hsame]

end Targets

/-! ## Results -/

/-- The report of a new target is put at the end. -/
theorem keys_putReport {target : String} {r : Report} {results : Results}
    (h : target ∉ results.map Prod.fst) :
    (putReport target r results).map Prod.fst = results.map Prod.fst ++ [target] := by
  induction results with
  | nil => rfl
  | cons e results ih =>
    obtain ⟨key, old⟩ := e
    rw [List.map_cons, List.mem_cons, not_or] at h
    have hkey : ¬ (key == target) = true := by
      rw [beq_iff_eq]
      exact fun heq => h.1 heq.symm
    rw [putReport, if_neg hkey, List.map_cons, ih h.2]
    rfl

/-- Targets with different labels each have a result, in order. -/
theorem keys_lintEach {α : Type} {lint : α → Except LintError Report} {label : α → String}
    {targets : List α} {results : Results} (hlabels : (targets.map label).Nodup)
    (h : lintEach lint label targets = .ok results) :
    results.map Prod.fst = targets.map label := by
  -- the results so far have other labels than the targets that are left
  have hrest : ∀ (rest : List α) (before : Results),
      (before.map Prod.fst ++ rest.map label).Nodup →
      rest.foldlM (fun results t => return putReport (label t) (← lint t) results) before =
        Except.ok results → results.map Prod.fst = before.map Prod.fst ++ rest.map label := by
    intro rest
    induction rest with
    | nil =>
      intro before _ h
      rw [← Except.ok.inj h, List.map_nil, List.append_nil]
    | cons t rest ih =>
      intro before hnodup h
      rw [List.foldlM_cons] at h
      obtain ⟨next, hnext, h⟩ := bind_eq_ok_iff.mp h
      obtain ⟨r, -, hr⟩ := bind_eq_ok_iff.mp hnext
      have hnew : label t ∉ before.map Prod.fst := by
        intro hmem
        exact List.disjoint_of_nodup_append hnodup hmem List.mem_cons_self
      have hkeys : next.map Prod.fst = before.map Prod.fst ++ [label t] := by
        rw [← Except.ok.inj hr]
        exact keys_putReport hnew
      have hassoc : before.map Prod.fst ++ (t :: rest).map label =
          next.map Prod.fst ++ rest.map label := by
        rw [hkeys, List.append_assoc]
        rfl
      rw [hassoc] at hnodup ⊢
      exact ih next hnodup h
  exact hrest targets [] hlabels h

/-- **What is found below a directory that is no chart.** The targets are different, also
as texts, and each is linted once. They are the directories with a description that have
no directory `charts` on the way to them, and the build files that are not left out and
are in none of those. This is all there is to lint, the charts that are there for others
apart, exactly if what has `charts` on the way to it is there for another chart. -/
theorem targets_below_plainDirectory (l : Linter) (w : Workspace) (d : Path)
    (entries : List (String × FileNode)) (hw : w.tree.isProper = true)
    (hfind : w.find d = .ok (.directory entries))
    (hplain : w.hasPath (d.append [Chart.chartFile]) = false) :
    ((l.targets w [d]).map Path.render).Nodup ∧
    (∀ results, l.lintPaths w [d] = .ok results →
      results.map Prod.fst = (l.targets w [d]).map Path.render) ∧
    (∀ p, p ∈ l.targets w [d] ↔ IsTarget l.settings w d (.directory entries)
      (fun parts => HoldsChart w d (.directory entries) parts ∧ "charts" ∉ parts.dropLast) p) ∧
    ((∀ p, p ∈ l.targets w [d] ↔ IsTarget l.settings w d (.directory entries)
        (fun parts => HoldsChart w d (.directory entries) parts ∧
          ¬ IsVendored w (d.append parts)) p) ↔
      ∀ parts, HoldsChart w d (.directory entries) parts →
        ("charts" ∈ parts.dropLast ↔ IsVendored w (d.append parts))) := by
  have hlabels := nodup_render_targets (l := l) hw hfind hplain
  have hfound : ∀ p, p ∈ l.targets w [d] ↔ IsTarget l.settings w d (.directory entries)
      (fun parts => HoldsChart w d (.directory entries) parts ∧ "charts" ∉ parts.dropLast) p :=
    fun p => mem_targets_iff hw hfind hplain
  refine ⟨hlabels, fun results h => keys_lintEach hlabels h, hfound, ?_⟩
  rw [forall_congr' fun p => iff_congr (hfound p) Iff.rfl,
    isTarget_congr_iff hw hfind (fun _ h => h.1) (fun _ h => h.1)]
  refine forall_congr' fun parts => ?_
  rw [and_congr_right_iff]
  exact imp_congr_right fun _ => not_iff_not

/-- A chart that needs another, with that in its `charts` directory; each has a build file
near it, and so has the directory around them. -/
def vendoringTree : FileNode :=
  .directory [("Dockerfile", .file []),
    ("web", .directory [("Chart.yaml", .file []), ("Dockerfile", .file []),
      ("charts", .directory [("db", .directory [("Chart.yaml", .file [])])])]),
    ("web.Dockerfile", .file [])]

theorem contents_vendoringTree : vendoringTree.contents = vendoringTree.walk [] :=
  List.mergeSort_of_pairwise (by decide +kernel)

theorem directoriesIn_vendoringTree :
    directoriesIn vendoringTree = [[], ["web"], ["web", "charts"], ["web", "charts", "db"]] := by
  unfold directoriesIn
  rw [contents_vendoringTree]
  rfl

/-- The chart is found with the build file that is outside of it and is not left out; what
is there for the chart is not found. -/
theorem targets_below_vendoringTree :
    let w : Workspace := ⟨.ofText "/repo", [], vendoringTree⟩
    let l : Linter := { settings := { exclude := ["web.*"] } }
    l.targets w [.ofText "."] = [.ofText "web", .ofText "Dockerfile"] ∧
    ∀ p, p ∈ l.targets w [.ofText "."] ↔ IsTarget l.settings w (.ofText ".") vendoringTree
      (fun parts => HoldsChart w (.ofText ".") vendoringTree parts ∧
        ¬ IsVendored w ((Path.ofText ".").append parts)) p := by
  intro w l
  have hfind : w.find (.ofText ".") = .ok vendoringTree := rfl
  have hplain : w.hasPath ((Path.ofText ".").append [Chart.chartFile]) = false := by decide +kernel
  constructor
  · have hcharts : chartsIn w (.ofText ".") vendoringTree = [.ofText "web"] := by
      unfold chartsIn
      rw [directoriesIn_vendoringTree]
      dsimp only
      -- the directories are sorted already, so the sort need not be computed
      rw [List.mergeSort_of_pairwise (by decide +kernel)]
      decide +kernel
    rw [targets_of_plain hfind hplain, ← vendoringTree, hcharts, dockerfilesIn,
      contents_vendoringTree]
    decide +kernel
  · refine (targets_below_plainDirectory l w (.ofText ".") _ (by decide +kernel) hfind
      hplain).2.2.2.mpr fun parts hholds => ?_
    have hparts := (mem_directoriesIn_iff (by decide +kernel)).mpr hholds.1
    rw [← vendoringTree, directoriesIn_vendoringTree] at hparts
    -- of the four directories two hold a chart, and one of these is vendored
    simp only [List.mem_cons, List.not_mem_nil, or_false] at hparts
    rcases hparts with rfl | rfl | rfl | rfl
    · exact absurd hholds.2 (by decide +kernel)
    · refine iff_of_false (by decide) ?_
      rintro ⟨outer, inner, -, hparts, -⟩
      have hmem : "charts" ∈ outer ++ "charts" :: inner := by simp
      exact absurd (hparts ▸ hmem) (by decide +kernel)
    · exact absurd hholds.2 (by decide +kernel)
    · exact iff_of_true (by decide) ⟨["web"], ["db"], by decide, rfl, by decide +kernel⟩

/-- Charts that are kept in a directory of that name. -/
def collectionTree : FileNode :=
  .directory [("charts", .directory [("web", .directory [("Chart.yaml", .file [])])])]

theorem contents_collectionTree : collectionTree.contents = collectionTree.walk [] :=
  List.mergeSort_of_pairwise (by decide +kernel)

/-- They are there for no other chart, and none of them is found. -/
theorem targets_below_collectionTree :
    let w : Workspace := ⟨.ofText "/repo", [], collectionTree⟩
    let l : Linter := {}
    l.targets w [.ofText "."] = [] ∧
    HoldsChart w (.ofText ".") collectionTree ["charts", "web"] ∧
    ¬ IsVendored w ((Path.ofText ".").append ["charts", "web"]) := by
  intro w l
  have hfind : w.find (.ofText ".") = .ok collectionTree := rfl
  have hplain : w.hasPath ((Path.ofText ".").append [Chart.chartFile]) = false := by decide +kernel
  refine ⟨?_, ⟨⟨_, rfl⟩, by decide +kernel⟩, ?_⟩
  · have hcharts : chartsIn w (.ofText ".") collectionTree = [] := by
      unfold chartsIn directoriesIn
      rw [contents_collectionTree]
      dsimp only
      rw [List.mergeSort_of_pairwise (by decide +kernel)]
      decide +kernel
    rw [targets_of_plain hfind hplain, ← collectionTree, hcharts, dockerfilesIn,
      contents_collectionTree]
    decide +kernel
  · rintro ⟨outer, inner, -, hparts, hpath⟩
    have hparts : ["charts", "web"] = outer ++ "charts" :: inner := hparts
    cases outer with
    | nil => exact absurd hpath (by decide +kernel)
    | cons name outer =>
      have hrest : ["web"] = outer ++ "charts" :: inner := (List.cons.inj hparts).2
      have hmem : "charts" ∈ outer ++ "charts" :: inner := by simp
      rw [← hrest] at hmem
      exact absurd hmem (by decide)

end ContainerLint
