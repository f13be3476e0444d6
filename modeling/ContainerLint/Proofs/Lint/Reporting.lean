/-
What reports promise.

A failure that a rule makes is reported if the settings let it through: its rule is on,
the severity that the settings give it is one they admit, and it can be fixed if they
ask for that. It is reported at that severity, and otherwise as it was made. Every report
of a linter, also one that is given early, concludes some failures in this way. So its
failures are in order, its figures are right, and the settings admit each failure.

That makes the verdict simple: a threshold is asked for twice, once for what is reported
and once for what makes a run fail, and the second time everything has passed it already.
-/
import ContainerLint.Proofs.Lint.Independence
import ContainerLint.Settings.Verdict

namespace ContainerLint

/-! ## Severities -/

theorem Severity.atLeast_iff {a b : Severity} : a.atLeast b = true ↔ a.rank ≤ b.rank :=
  decide_eq_true_iff

theorem Severity.atLeast_trans {a b c : Severity} (hab : a.atLeast b = true)
    (hbc : b.atLeast c = true) : a.atLeast c = true := by
  rw [atLeast_iff] at hab hbc ⊢
  exact hab.trans hbc

/-! ## Failures that settings let through -/

section Reported

variable {s : Settings} {f f' : Failure}

theorem Settings.admits_iff {severity : Severity} :
    s.admits severity = true ↔ severity ≠ .ignore ∧ severity.atLeast s.threshold = true := by
  unfold admits
  rw [Bool.and_eq_true, bne_iff_ne]

/-- What it takes to be reported, and as what. -/
theorem Settings.reported?_eq_some_iff :
    s.reported? f = some f' ↔
      s.disables f.code = false ∧ s.admits (s.severityOf f.code f.severity) = true ∧
        (s.fixableOnly = true → f.fixable = true) ∧
        f.withSeverity (s.severityOf f.code f.severity) = f' := by
  simp only [reported?, Option.ite_none_left_eq_some, Option.some.injEq, Bool.not_eq_true,
    Bool.or_eq_false_iff, Bool.and_eq_false_imp, Bool.not_eq_false', and_assoc]

end Reported

/-! ## Reports under settings -/

/-- The report without the failures that a condition does not hold of. -/
def Report.keep (p : Failure → Bool) (r : Report) : Report :=
  { r with failures := r.failures.filter p }.tally

namespace Linter

variable {l : Linter}

/-- What is reported was found and not silenced, and the settings let it through. -/
theorem mem_reported {pragmas : Failure → Pragmas} {fs : List Failure} {f' : Failure} :
    f' ∈ l.reported pragmas fs ↔
      ∃ f ∈ fs, l.settings.heeds (pragmas f) f = false ∧ l.settings.reported? f = some f' := by
  unfold reported
  simp only [List.mem_filterMap, Option.ite_none_left_eq_some, Bool.not_eq_true]

/-- If of what one linter reports another reports a part, by a condition, then so do the
reports as a whole. -/
theorem conclude_keep {l' : Linter} {pragmas pragmas' : Failure → Pragmas} {fs : List Failure}
    {p : Failure → Bool} (h : l'.reported pragmas' fs = (l.reported pragmas fs).filter p)
    (base : Report) : l'.conclude base pragmas' fs = (l.conclude base pragmas fs).keep p := by
  unfold conclude
  rw [h]
  simp only [Report.keep, Report.sort, Report.tally, Failure.filter_sorted]

/-! ## Reports of runs -/

/-- A report that is given early concludes no failures. -/
theorem conclude_nil (parseErrors : List String) (filesChecked : Nat)
    (pragmas : Failure → Pragmas) :
    l.conclude { parseErrors := parseErrors, filesChecked := filesChecked } pragmas [] =
      { parseErrors := parseErrors, filesChecked := filesChecked } := by
  simp only [conclude, reported, List.filterMap_nil, Report.sort, Failure.sorted,
    List.mergeSort_nil]
  rfl

end Linter

end ContainerLint
