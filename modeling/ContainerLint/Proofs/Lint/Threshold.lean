/-
Raising the threshold.

The threshold is asked for failure by failure, after the settings have given each failure
its severity and before the failures are sorted by it. So under a higher threshold
exactly those failures are left that reach it at the severity they are reported with, in
the order that they have among all. Nothing else hangs on the threshold: which files are
read, which rules run, which error stops a run, and what is said of files that cannot be
read are the same.
-/
import ContainerLint.Proofs.Lint.Graded

namespace ContainerLint

/-- The settings with another threshold. -/
def Settings.withThreshold (s : Settings) (t : Severity) : Settings :=
  { s with threshold := t }

namespace Linter

variable {c : Catalogue} {s : Settings} {t₁ t₂ : Severity}

/-- A severity passes the higher threshold if it passes the lower one and then the
higher one by itself. -/
theorem admits_withThreshold (h : t₂.atLeast t₁ = true) (severity : Severity) :
    (s.withThreshold t₂).admits severity =
      ((s.withThreshold t₁).admits severity && severity.atLeast t₂) := by
  rw [Bool.eq_iff_iff, Bool.and_eq_true, Settings.admits_iff, Settings.admits_iff]
  constructor
  · rintro ⟨hne, hreaches⟩
    have hlower : severity.atLeast t₁ = true := Severity.atLeast_trans hreaches h
    exact ⟨⟨hne, hlower⟩, hreaches⟩
  · rintro ⟨⟨hne, -⟩, hreaches⟩
    exact ⟨hne, hreaches⟩

/-- A higher threshold lets a failure through if it is grave enough. -/
theorem reported?_withThreshold (h : t₂.atLeast t₁ = true) (f : Failure) :
    (s.withThreshold t₂).reported? f =
      ((s.withThreshold t₁).reported? f).filter fun f' => f'.severity.atLeast t₂ := by
  ext f'
  rw [Option.filter_eq_some_iff, Settings.reported?_eq_some_iff, Settings.reported?_eq_some_iff,
    admits_withThreshold h, Bool.and_eq_true]
  -- the severity that is asked for is the one that the failure is reported with
  constructor
  · rintro ⟨hon, ⟨hadmits, hreaches⟩, hfixable, rfl⟩
    exact ⟨⟨hon, hadmits, hfixable, rfl⟩, hreaches⟩
  · rintro ⟨⟨hon, hadmits, hfixable, rfl⟩, hreaches⟩
    exact ⟨hon, ⟨hadmits, hreaches⟩, hfixable, rfl⟩

/-- A higher threshold lets those failures through that are grave enough. -/
theorem reported_withThreshold (h : t₂.atLeast t₁ = true) (pragmas : Failure → Pragmas)
    (fs : List Failure) :
    (Linter.mk c (s.withThreshold t₂)).reported pragmas fs =
      ((Linter.mk c (s.withThreshold t₁)).reported pragmas fs).filter
        fun f => f.severity.atLeast t₂ := by
  unfold reported
  rw [List.filter_filterMap]
  refine congrArg (List.filterMap · fs) (funext fun f => ?_)
  have hheeds : (s.withThreshold t₂).heeds (pragmas f) f =
      (s.withThreshold t₁).heeds (pragmas f) f := rfl
  dsimp only
  rw [hheeds]
  by_cases hoff : (s.withThreshold t₁).heeds (pragmas f) f = true
  · rw [if_pos hoff, if_pos hoff, Option.filter_none]
  · rw [if_neg hoff, if_neg hoff, reported?_withThreshold h]

/-- The same failures make reports of which one is a part of the other. -/
theorem conclude_withThreshold (h : t₂.atLeast t₁ = true) (base : Report)
    (pragmas : Failure → Pragmas) (fs : List Failure) :
    (Linter.mk c (s.withThreshold t₂)).conclude base pragmas fs =
      ((Linter.mk c (s.withThreshold t₁)).conclude base pragmas fs).keep
        fun f => f.severity.atLeast t₂ :=
  conclude_keep (reported_withThreshold h pragmas fs) base

theorem lintDockerfile_withThreshold (h : t₂.atLeast t₁ = true) (text path : String) :
    (Linter.mk c (s.withThreshold t₂)).lintDockerfile text path =
      ((Linter.mk c (s.withThreshold t₁)).lintDockerfile text path).map
        (Report.keep fun f => f.severity.atLeast t₂) :=
  (@lintDockerfile_graded c s s.strict s.strict t₁ t₂ _ (conclude_withThreshold h) text path).eq_map

theorem lintChart_withThreshold (h : t₂.atLeast t₁ = true) (w : Workspace) (root : Path) :
    (Linter.mk c (s.withThreshold t₂)).lintChart w root =
      ((Linter.mk c (s.withThreshold t₁)).lintChart w root).map
        (Report.keep fun f => f.severity.atLeast t₂) :=
  (@lintChart_graded c s s.strict s.strict t₁ t₂ _ (conclude_withThreshold h) w root).eq_map

/-- **A higher threshold leaves the failures that reach it.** Let settings differ in
their thresholds only, the second being at least as severe. On every build file and every
chart, a run under the second ends in an error exactly if the run under the first does,
and in the same one. Otherwise it reports the failures of the first run whose reported
severity reaches the second threshold, in the same order, with the same parse errors and
the same number of files. -/
theorem lint_withThreshold (c : Catalogue) (s : Settings) (t₁ t₂ : Severity)
    (h : t₂.atLeast t₁ = true) :
    (∀ text path,
      match (Linter.mk c (s.withThreshold t₁)).lintDockerfile text path with
      | .error e => (Linter.mk c (s.withThreshold t₂)).lintDockerfile text path = .error e
      | .ok r₁ => ∃ r₂, (Linter.mk c (s.withThreshold t₂)).lintDockerfile text path = .ok r₂ ∧
          r₂.failures = r₁.failures.filter (fun f => f.severity.atLeast t₂) ∧
          r₂.parseErrors = r₁.parseErrors ∧ r₂.filesChecked = r₁.filesChecked) ∧
    ∀ w root,
      match (Linter.mk c (s.withThreshold t₁)).lintChart w root with
      | .error e => (Linter.mk c (s.withThreshold t₂)).lintChart w root = .error e
      | .ok r₁ => ∃ r₂, (Linter.mk c (s.withThreshold t₂)).lintChart w root = .ok r₂ ∧
          r₂.failures = r₁.failures.filter (fun f => f.severity.atLeast t₂) ∧
          r₂.parseErrors = r₁.parseErrors ∧ r₂.filesChecked = r₁.filesChecked := by
  constructor
  · intro text path
    rw [lintDockerfile_withThreshold h]
    cases (Linter.mk c (s.withThreshold t₁)).lintDockerfile text path with
    | error e => rfl
    | ok r => exact ⟨_, rfl, rfl, rfl, rfl⟩
  · intro w root
    rw [lintChart_withThreshold h]
    cases (Linter.mk c (s.withThreshold t₁)).lintChart w root with
    | error e => rfl
    | ok r => exact ⟨_, rfl, rfl, rfl, rfl⟩

/-- Where warnings count as errors, what was made as a warning reaches the threshold for
errors, and what was made as a piece of information does not. -/
theorem lint_withThreshold_strict :
    ∃ r₁ r₂,
      (Linter.mk .bundled (({ strict := true } : Settings).withThreshold .style)).lintDockerfile
        "FROM debian\nMAINTAINER me\nRUN sudo ls" "D" = .ok r₁ ∧
      r₁.failures.map (fun f => (f.code, f.severity)) =
        [("DL3006", .error), ("DL3057", .info), ("DL4000", .error), ("DL3004", .error)] ∧
      (Linter.mk .bundled (({ strict := true } : Settings).withThreshold .error)).lintDockerfile
        "FROM debian\nMAINTAINER me\nRUN sudo ls" "D" = .ok r₂ ∧
      r₂.failures.map (fun f => (f.code, f.severity)) =
        [("DL3006", .error), ("DL4000", .error), ("DL3004", .error)] := by
  have hcodes : ((Linter.mk .bundled (({ strict := true } : Settings).withThreshold
      .style)).lintDockerfile "FROM debian\nMAINTAINER me\nRUN sudo ls" "D").map
        (fun r => r.failures.map fun f => (f.code, f.severity)) =
      .ok [("DL3006", .error), ("DL3057", .info), ("DL4000", .error), ("DL3004", .error)] := by
    simp only [lintDockerfile, lintEntries, conclude, Report.sort, Failure.sorted_eq_insertionSort]
    decide +kernel
  obtain ⟨r₁, hr₁, hcodes⟩ := map_eq_ok_iff.mp hcodes
  have hraised := (lint_withThreshold .bundled { strict := true } .style .error (by decide)).1
    "FROM debian\nMAINTAINER me\nRUN sudo ls" "D"
  rw [hr₁] at hraised
  obtain ⟨r₂, hr₂, hkept, -⟩ := hraised
  refine ⟨r₁, r₂, hr₁, hcodes, hr₂, ?_⟩
  rw [hkept]
  have hfilter := congrArg (List.filter fun e : String × Severity => e.2.atLeast .error) hcodes
  rw [List.filter_map] at hfilter
  exact hfilter

end Linter

end ContainerLint
