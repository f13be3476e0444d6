/-
Checks on the templates of a chart: their form, their names, the helpers they define
and use, and settings that give away the host.
-/
import ContainerLint.Rule.Chart.View
import ContainerLint.Text.Fold

namespace ContainerLint.Chart

open ContainerLint.Text ContainerLint.Template

/-! ## Form -/

/-- Every action is closed. -/
def unclosedActions (v : View) : List Finding :=
  v.templates.flatMap fun t => t.errors.flatMap fun e =>
    findIf (e.fault == .unclosedAction)
      ⟨"Unclosed template action (missing \x7d\x7d)", t.path, e.line⟩

/-- Every block is closed. -/
def unclosedBlocks (v : View) : List Finding :=
  v.templates.flatMap fun t => t.unclosedBlocks.map fun (kind, line) =>
    ⟨"Unclosed " ++ kind.label ++ " block (missing \x7b\x7b- end \x7d\x7d)", t.path, line⟩

/-- A word occurs in a text as a word of its own, `inWord` telling whether a word goes on
at the front of the text. -/
def hasWord (word : List Char) (inWord : Bool) : List Char → Bool
  | [] => false
  | c :: cs =>
    (!inWord && word.isPrefixOf (c :: cs) && atWordEnd ((c :: cs).drop word.length)) ||
      hasWord word (isWordChar c) cs

/-- The functions that are out of use, and what to do instead. -/
def deprecatedFunctions : List (String × String) := [
  ("dateInZone", "Use 'mustDateModify' instead"),
  ("genCA", "Use 'genSelfSignedCert' for better control")]

/-- Actions do not call functions that are out of use. -/
def deprecatedFunction : Checker Token Unit :=
  Checker.ofStep () (fun _ line token => match token with
    | .action content .. =>
      ((), deprecatedFunctions.flatMap fun (name, advice) =>
        if hasWord name.toList false content.toList then
          [⟨line, some ("Function '" ++ name ++ "' is deprecated. " ++ advice), none⟩]
        else [])
    | _ => ((), [])) fun _ => []

/-! ## Files -/

/-- A file among the templates whose name is not that of a template. -/
def hasOddEnding (file : String) : Bool :=
  contains file "templates/" && !contains file "templates/tests/" &&
    !templateEndings.any (endsWith file) && !contains file "_helpers" && !endsWith file "NOTES.txt"

/-- The files among the templates are templates. -/
def oddTemplateFiles (v : View) : List Finding :=
  (ordered v.files).flatMap fun f =>
    findIf (hasOddEnding f) ⟨"Template file '" ++ f ++ "' has unexpected extension", f, 1⟩

/-- A chart that is no library tells what to do after it is installed. -/
def missingNotes (v : View) : List Finding :=
  findIf (!v.isLibrary && !v.hasFile "NOTES.txt")
    ⟨"Chart is missing templates/NOTES.txt for post-install instructions",
      "templates/NOTES.txt", 1⟩

/-! ## Helpers -/

/-- What a check finds in the file of helpers, if there is one. -/
def inHelpers (check : HelperFile → List Finding) (v : View) : List Finding :=
  match v.helpers with
  | some f => check f
  | none => []

/-- Every helper is described. -/
def undescribedHelpers : View → List Finding :=
  inHelpers fun f => f.helpers.flatMap fun h =>
    findIf h.description.isNone
      ⟨"Helper '" ++ h.name ++ "' is missing a description comment", f.template.path, h.line⟩

/-- A helper is mentioned in the content of another. -/
def mentioned (f : HelperFile) (h : Helper) : Bool :=
  f.helpers.any fun other => other.name != h.name && contains other.content h.name

/-- Every helper is used. -/
def unusedHelpers (v : View) : List Finding :=
  inHelpers (fun f => f.helpers.flatMap fun h =>
    findIf (!v.referencedNames.contains h.name && !mentioned f h)
      ⟨"Helper '" ++ h.name ++ "' is defined but never used", f.template.path, h.line⟩) v

/-- Every name that templates refer to is defined; the first template that refers to it
is blamed. -/
def missingIncludes (v : View) : List Finding :=
  (ordered (v.referencedNames.filter (!v.definedNames.contains ·))).flatMap fun name =>
    match v.templates.find? fun t => t.referencedNames.contains name with
    | some t => [⟨"Template includes '" ++ name ++ "' which is not defined", t.path, 1⟩]
    | none => []

/-! ## Security -/

/-- A space or a tab. -/
def isIndent (c : Char) : Bool :=
  c == ' ' || c == '\t'

/-- A line consists of a setting, with a dash before it perhaps, and spaces and tabs. -/
def isSetting (setting : String) (line : List Char) : Bool :=
  let line := dropBack isIndent (dropFront isIndent line)
  let line := match line with
    | '-' :: rest => dropFront isIndent rest
    | rest => rest
  line == setting.toList

/-- The lines of a text that starts on `line` which consist of a setting. -/
def settingLines (setting : String) (line : Nat) (content : String) : List Nat :=
  ((splitAtChar '\n' content.toList).zipIdx line).filterMap fun (piece, n) =>
    if isSetting setting piece then some n else none

/-- No line of text consists of a setting. -/
def literalSetting (setting message : String) : Checker Token Unit :=
  Checker.ofStep () (fun _ line token => match token with
    | .text content _ =>
      ((), (settingLines setting line content).map fun n => ⟨n, some message, none⟩)
    | _ => ((), [])) fun _ => []

end ContainerLint.Chart
