/-
Warnings that count as errors.

Under strict settings a failure that would be reported as a warning is reported as an
error. The levels of the rules are applied before that and the threshold is asked for
after it, so a warning is reported whatever the threshold is, and nothing else is reported
that would not have been. Hence the strict run finds what the run finds that is not strict
and admits warnings as well, with the warnings raised. Only the order may differ, since
failures are sorted by the severity that they are reported with.
-/
import ContainerLint.Proofs.Lint.Graded

namespace ContainerLint

/-- The less severe of two severities. -/
def Severity.milder (a b : Severity) : Severity :=
  if a.atLeast b then b else a

/-- The severity, with warnings raised to errors. -/
def Severity.promoted : Severity → Severity
  | .warning => .error
  | severity => severity

/-- The failure, raised to an error if it is a warning. -/
def Failure.promoted (f : Failure) : Failure :=
  f.withSeverity f.severity.promoted

/-- The second report says what the first one does, with warnings raised to errors. -/
structure Report.Promotes (r r' : Report) : Prop where
  failures : r'.failures.Perm (r.failures.map Failure.promoted)
  parseErrors : r'.parseErrors = r.parseErrors
  filesChecked : r'.filesChecked = r.filesChecked

namespace Settings

variable (s : Settings) (t t' : Severity)

/-- Warnings are raised after the levels of the rules are applied. -/
theorem severityOf_strict (code : String) (own : Severity) :
    (s.graded true t).severityOf code own =
      ((s.graded false t').severityOf code own).promoted := by
  have hrule : (s.graded true t).rule? code = (s.graded false t').rule? code := rfl
  simp only [severityOf, hrule]
  generalize (((s.graded false t').rule? code).bind (·.level)).getD own = level
  cases level <;> rfl

/-- The threshold is asked for after warnings are raised. An error passes any threshold,
and so does a warning pass one that is not above warnings. -/
theorem admits_strict (severity : Severity) :
    (s.graded true t).admits severity.promoted =
      (s.graded false (t.milder .warning)).admits severity := by
  cases severity <;> cases t <;> rfl

/-- Strictness lets through what a threshold of warnings at most would, and promotes it. -/
theorem reported?_strict (f : Failure) :
    (s.graded true t).reported? f =
      ((s.graded false (t.milder .warning)).reported? f).map Failure.promoted := by
  ext f'
  rw [Option.map_eq_some_iff, reported?_eq_some_iff,
    severityOf_strict s t (t.milder .warning) f.code f.severity, admits_strict]
  simp only [reported?_eq_some_iff]
  constructor
  · rintro ⟨hon, hadmits, hfixable, rfl⟩
    exact ⟨_, ⟨hon, hadmits, hfixable, rfl⟩, rfl⟩
  · rintro ⟨_, ⟨hon, hadmits, hfixable, rfl⟩, rfl⟩
    exact ⟨hon, hadmits, hfixable, rfl⟩

end Settings

namespace Linter

variable {c : Catalogue} {s : Settings} {t : Severity}

/-- Strictness does so with all failures. -/
theorem reported_strict (pragmas : Failure → Pragmas) (fs : List Failure) :
    (Linter.mk c (s.graded true t)).reported pragmas fs =
      ((Linter.mk c (s.graded false (t.milder .warning))).reported pragmas fs).map
        Failure.promoted := by
  unfold reported
  rw [List.map_filterMap]
  refine congrArg (List.filterMap · fs) (funext fun f => ?_)
  have hheeds : (s.graded true t).heeds (pragmas f) f =
      (s.graded false (t.milder .warning)).heeds (pragmas f) f := rfl
  dsimp only
  rw [hheeds]
  by_cases hoff : (s.graded false (t.milder .warning)).heeds (pragmas f) f = true
  · rw [if_pos hoff, if_pos hoff, Option.map_none]
  · rw [if_neg hoff, if_neg hoff, Settings.reported?_strict]

/-- Sorting comes last, so it does not matter for which failures there are. -/
theorem conclude_strict (base : Report) (pragmas : Failure → Pragmas) (fs : List Failure) :
    ((Linter.mk c (s.graded false (t.milder .warning))).conclude base pragmas fs).Promotes
      ((Linter.mk c (s.graded true t)).conclude base pragmas fs) := by
  refine ⟨?_, rfl, rfl⟩
  show (Failure.sorted _).Perm ((Failure.sorted _).map Failure.promoted)
  rw [reported_strict]
  exact (List.mergeSort_perm _ _).trans ((List.mergeSort_perm _ _).map _).symm

/-- **Strict settings raise warnings to errors and change nothing else.** On every build
file and every chart, a strict run ends in an error exactly if the run does that is not
strict, and in the same one. Otherwise its failures are, up to their order, those of the
run that is not strict and whose threshold is the less severe of its own and warnings,
with each warning raised to an error. -/
theorem lint_strict (c : Catalogue) (s : Settings) (t : Severity) :
    (∀ text path, Agree Report.Promotes
      ((Linter.mk c (s.graded false (t.milder .warning))).lintDockerfile text path)
      ((Linter.mk c (s.graded true t)).lintDockerfile text path)) ∧
    ∀ w root, Agree Report.Promotes
      ((Linter.mk c (s.graded false (t.milder .warning))).lintChart w root)
      ((Linter.mk c (s.graded true t)).lintChart w root) :=
  ⟨lintDockerfile_graded conclude_strict, lintChart_graded conclude_strict⟩

end Linter

end ContainerLint
