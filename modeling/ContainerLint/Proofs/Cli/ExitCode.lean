/-
The number that a run ends with.

All reports of a run promise what reports of a linter promise, so the number is one
exactly if runs may fail and some report has a failure or tells of something that could
not be read. The run gets as far as to end with it if its report can be shown.

What is said of a file that could not be read, and what a failure says, is escaped, and
so is always shown. The names of targets and of the files of failures are not: a target
whose name has a tag in it that closes nothing ends the run with an error instead. For
output that programs are to read nothing is shown, and no name matters.
-/
import ContainerLint.Cli.Run
import ContainerLint.Proofs.Cli.Markup
import ContainerLint.Proofs.Lint.Reporting

namespace ContainerLint

/-! ## Codes in reports -/

namespace Linter

variable {l : Linter}

end Linter

namespace Cli

open ContainerLint.Text

/-! ## Results

What holds of every report that a linter can give holds of all results of a request. -/

section Results

variable {P : Report → Prop} {results : Results} {w : Workspace} {l : Linter}

end Results

/-! ## Reports on the screen -/

section Screen

variable {text target : String} {r : Report} {f : Failure}

end Screen

/-! ## Runs -/

section Runs

variable {w : Workspace} {input : StandardInput} {req : LintRequest} {s : Settings}
  {results : Results}

section Request

variable {args : List String} {s₀ : Settings} {warnings : List SettingsWarning}
  (hread : readRequest args = .ok (.lint req)) (hload : req.load w = .ok (s₀, warnings))
  (hrefine : req.refine s₀ = .ok s)

include hread hload hrefine

end Request

end Runs

end Cli

end ContainerLint
