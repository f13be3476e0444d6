/-
Whether a run fails, by its report and its settings.
-/
import ContainerLint.Finding.Report
import ContainerLint.Settings.Basic

namespace ContainerLint

/-- A run with this report fails: a failure reaches the threshold, unless the settings
say that runs never fail. -/
def Report.fails (r : Report) (s : Settings) : Bool :=
  !s.noFail && r.reaches s.threshold

end ContainerLint
