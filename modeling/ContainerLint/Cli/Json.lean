/-
Reports for machines: results and totals as structured text, two spaces to a level.
-/
import ContainerLint.Lint.Batch
import ContainerLint.Text.Quoted

namespace ContainerLint.Cli

open ContainerLint.Text

/-- A structured value. -/
inductive Json where
  | null
  | bool (b : Bool)
  | number (n : Int)
  | text (s : String)
  | array (items : List Json)
  | object (fields : List (String × Json))
  deriving Repr

namespace Json

/-! ## Writing -/

/-- A character as it is written inside of quotes. -/
def escapeChar (c : Char) : List Char :=
  if c == '"' then ['\\', '"']
  else if c == '\\' then ['\\', '\\']
  else if c == '\n' then ['\\', 'n']
  else if c == '\r' then ['\\', 'r']
  else if c == '\t' then ['\\', 't']
  else if c == '\x08' then ['\\', 'b']
  else if c == '\x0c' then ['\\', 'f']
  else if c.toNat < 32 then ['\\', 'u'] ++ hexPadded 4 c.toNat
  else [c]

/-- A text in quotes. -/
def quote (s : String) : String :=
  String.ofList ('"' :: s.toList.flatMap escapeChar ++ ['"'])

/-- The start of a line at a level. -/
def indent (level : Nat) : String :=
  String.ofList ('\n' :: List.replicate (2 * level) ' ')

mutual

/-- A value as it is written at a level. -/
def write (level : Nat) : Json → String
  | .null => "null"
  | .bool b => if b then "true" else "false"
  | .number n => toString n
  | .text s => quote s
  | .array [] => "[]"
  | .array (item :: items) =>
    "[" ++ indent (level + 1) ++ write (level + 1) item ++ writeItems (level + 1) items ++
      indent level ++ "]"
  | .object [] => "\x7b\x7d"
  | .object ((key, value) :: fields) =>
    "\x7b" ++ indent (level + 1) ++ quote key ++ ": " ++ write (level + 1) value ++
      writeFields (level + 1) fields ++ indent level ++ "\x7d"

/-- The items after the first. -/
def writeItems (level : Nat) : List Json → String
  | [] => ""
  | item :: items => "," ++ indent level ++ write level item ++ writeItems level items

/-- The fields after the first. -/
def writeFields (level : Nat) : List (String × Json) → String
  | [] => ""
  | (key, value) :: fields =>
    "," ++ indent level ++ quote key ++ ": " ++ write level value ++ writeFields level fields

end

/-! ## Reports -/

/-- A failure. -/
def ofFailure (f : Failure) : Json :=
  .object [
    ("code", .text f.code), ("severity", .text f.severity.label), ("message", .text f.message),
    ("file", .text f.file), ("line", .number f.line),
    ("column", (f.column.map number).getD .null), ("fixable", .bool f.fixable),
    ("category", .text f.category.title)]

/-- A report. -/
def ofReport (r : Report) : Json :=
  .object [
    ("failures", .array (r.failures.map ofFailure)),
    ("parse_errors", .array (r.parseErrors.map text)),
    ("files_checked", .number r.filesChecked), ("error_count", .number r.errorCount),
    ("warning_count", .number r.warningCount),
    ("max_severity", (r.maxSeverity?.map fun s => text s.label).getD .null)]

/-- Totals. -/
def ofSummary (s : Summary) : Json :=
  .object [
    ("targets", .number s.targets), ("files_checked", .number s.filesChecked),
    ("failures", .number s.failures), ("errors", .number s.errors),
    ("warnings", .number s.warnings), ("parse_errors", .number s.parseErrors),
    ("failing_targets", .number s.failingTargets)]

/-- Results with their totals. -/
def ofResults (results : Results) (s : Summary) : Json :=
  .object [
    ("results", .object (results.map fun (target, r) => (target, ofReport r))),
    ("summary", ofSummary s)]

end Json

end ContainerLint.Cli
