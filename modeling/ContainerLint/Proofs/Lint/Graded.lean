/-
Settings that grade failures differently.

Whether warnings count as errors, and the threshold, are asked for when the failures of
the rules are made into a report, and nowhere else. So between settings that differ in
these two alone, runs end in the same errors, and what holds between all reports that are
made of the same failures holds between the reports of the runs.
-/
import ContainerLint.Proofs.Chart.Source
import ContainerLint.Proofs.Lint.Reporting

namespace ContainerLint

/-- The settings with another threshold, and warnings counted as errors or not. -/
def Settings.graded (s : Settings) (strict : Bool) (t : Severity) : Settings :=
  { s with strict := strict, threshold := t }

namespace Linter

/-- How failures are graded does not change how a chart is read. -/
theorem readSource_graded (s : Settings) (strict strict' : Bool) (t t' : Severity) (root : Path)
    (chart : FileNode) :
    Chart.readSource (s.graded strict' t') root chart =
      Chart.readSource (s.graded strict t) root chart := by
  have hheeds : ({ s with ignorePragmas := false } : Settings).ignorePragmas = false := rfl
  rw [Chart.readSource_heededBy (s := s.graded strict' t') root hheeds rfl,
    Chart.readSource_heededBy (s := s.graded strict t) root hheeds rfl]
  rfl

section Runs

variable {c : Catalogue} {s : Settings} {strict strict' : Bool} {t t' : Severity}
  {R : Report → Report → Prop}
  (hconclude : ∀ base pragmas fs,
    R ((Linter.mk c (s.graded strict t)).conclude base pragmas fs)
      ((Linter.mk c (s.graded strict' t')).conclude base pragmas fs))

include hconclude

/-- A report that is given early is made of no failures. -/
theorem early_graded (parseErrors : List String) (filesChecked : Nat) :
    R { parseErrors := parseErrors, filesChecked := filesChecked }
      { parseErrors := parseErrors, filesChecked := filesChecked } := by
  have hearly := hconclude { parseErrors := parseErrors, filesChecked := filesChecked }
    (fun _ => Pragmas.none) []
  rwa [conclude_nil, conclude_nil] at hearly

/-- Reports of a Dockerfile differ only as their conclusions do. -/
theorem lintEntries_graded (path : String) (entries : List Dockerfile.Positioned) :
    Agree R ((Linter.mk c (s.graded strict t)).lintEntries path entries)
      ((Linter.mk c (s.graded strict' t')).lintEntries path entries) := by
  have hfound : (Linter.mk c (s.graded strict' t')).nodeFailures =
      (Linter.mk c (s.graded strict t)).nodeFailures := rfl
  have hwhole : (Linter.mk c (s.graded strict' t')).buildFileFailures =
      (Linter.mk c (s.graded strict t)).buildFileFailures := rfl
  have hheeded : (s.graded strict' t').heeded = (s.graded strict t).heeded := rfl
  simp only [lintEntries, hheeded]
  by_cases hoff : ((s.graded strict t).heeded (Pragmas.ofDockerfile entries)).disabled = true
  · rw [if_pos hoff, if_pos hoff]
    exact .ok (early_graded hconclude [] 1)
  · rw [if_neg hoff, if_neg hoff, hfound, hwhole]
    cases (Linter.mk c (s.graded strict t)).nodeFailures path _ with
    | error e => exact .error e
    | ok found => exact .ok (hconclude _ _ _)

theorem lintDockerfile_graded (text path : String) :
    Agree R ((Linter.mk c (s.graded strict t)).lintDockerfile text path)
      ((Linter.mk c (s.graded strict' t')).lintDockerfile text path) := by
  unfold lintDockerfile
  split
  next e _ => exact .error _
  next e _ _ => exact .ok (early_graded hconclude _ 1)
  next entries _ => exact (lintEntries_graded hconclude path entries).mapError _

/-- Reports of a chart that has been read differ only as their conclusions do. -/
theorem lintSource_graded (source : Chart.Source) :
    Agree R ((Linter.mk c (s.graded strict t)).lintSource source)
      ((Linter.mk c (s.graded strict' t')).lintSource source) := by
  have hfound : (Linter.mk c (s.graded strict' t')).sourceFailures =
      (Linter.mk c (s.graded strict t)).sourceFailures := rfl
  simp only [lintSource]
  by_cases hoff : source.widePragmas.disabled = true
  · rw [if_pos hoff, if_pos hoff]
    exact .ok (early_graded hconclude _ _)
  · rw [if_neg hoff, if_neg hoff, hfound]
    cases (Linter.mk c (s.graded strict t)).sourceFailures source.view with
    | error e => exact .error e
    | ok found => exact .ok (hconclude _ _ _)

/-- The same holds of a chart that is to be found first. -/
theorem lintChart_graded (w : Workspace) (root : Path) :
    Agree R ((Linter.mk c (s.graded strict t)).lintChart w root)
      ((Linter.mk c (s.graded strict' t')).lintChart w root) := by
  unfold lintChart
  split
  · exact .ok (early_graded hconclude _ 0)
  · unfold lintTree
    rw [readSource_graded s strict strict' t t']
    cases Chart.readSource (s.graded strict t) root _ with
    | error e => exact .error _
    | ok source => exact (lintSource_graded hconclude source).mapError _
  · exact .ok (early_graded hconclude _ 0)

end Runs

end Linter

end ContainerLint
