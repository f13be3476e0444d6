/-
Reports for people: lines of text, and rows of tables and panels. How rows are set on a
screen is left to whoever prints them.
-/
import ContainerLint.Cli.Markup
import ContainerLint.Cli.Request
import ContainerLint.Lint.Batch
import ContainerLint.Text.Width

namespace ContainerLint.Cli

open ContainerLint.Text

/-- A line of a report. -/
inductive Line where
  | text (s : String)
  /-- A row of a table, or of a panel, which has one cell. -/
  | row (cells : List String)
  deriving Repr, DecidableEq

/-- A line of a character, so many times. -/
def rule (count : Nat) : String :=
  String.ofList (List.replicate count '═')

/-- The lines of a text with tags, without tabs. -/
def textLines (text : String) : Except MarkupError (List Line) := do
  let lines := splitAtChar '\n' (← shown text).toList
  return lines.map fun cs => .text (String.ofList (expandTabs 0 cs))

/-- A row of texts with tags. -/
def row (cells : List String) : Except MarkupError Line := do
  return .row (← cells.mapM shown)

/-- The head of a report. -/
def header (title : String) : List Line := [
  .text title,
  .row ["LintCuro v" ++ programVersion],
  .row [rule 66]]

/-- The row of a failure. -/
def failureRow (f : Failure) : Except MarkupError Line :=
  row [f.file ++ ":" ++ toString f.line, f.code, f.severity.label, escape f.message,
    if f.fixable then "🔧" else ""]

/-- The lines on a target: what could not be read, then a table of failures, or the news
that there is nothing to report. -/
def resultLines (target : String) (r : Report) : Except MarkupError (List Line) := do
  let errors ← r.parseErrors.mapM fun e =>
    textLines ("[bold red]Parse error:[/bold red] " ++ escape e)
  let rest ←
    if !r.failures.isEmpty then do
      let title ← textLines ("Lint Report: " ++ target)
      let rows ← r.failures.mapM failureRow
      pure (title ++ .row ["Location", "Code", "Severity", "Message", "Fix"] :: rows)
    else if r.parseErrors.isEmpty then
      textLines ("[green]✅ " ++ target ++ ": no issues found[/green]")
    else pure []
  return errors.flatten ++ rest

/-- The panel with the totals. -/
def summaryLines (s : Summary) : List Line :=
  ["Summary Report",
    rule 40,
    "Targets:        " ++ toString s.targets,
    "Files Checked:  " ++ toString s.filesChecked,
    "Errors:         " ++ toString s.errors,
    "Warnings:       " ++ toString s.warnings,
    "Total Findings: " ++ toString s.failures,
    "Parse Errors:   " ++ toString s.parseErrors].map fun s => .row [s]

/-- The table of rules, in the order of their codes. -/
def ruleLines (c : Catalogue) : Except MarkupError (List Line) := do
  let inOrder := c.rules.mergeSort fun a b => !decide (b.code < a.code)
  let rows ← inOrder.mapM fun r =>
    row [r.code, r.severity.label, r.check.kind, (Category.ofCode r.code).title, r.summary]
  return .text "LintCuro Rule Catalogue" ::
    .row ["Code", "Severity", "Kind", "Category", "Description"] :: rows

end ContainerLint.Cli
