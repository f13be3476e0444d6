/-
Settings from a value, as a document or a caller gives it. A part that is not what
it should be is left out with a warning; reading fails only at numbers that have no
text.
-/
import ContainerLint.Settings.Basic

namespace ContainerLint

open ContainerLint.Text

/-- What is wrong with a part of the settings. Values are given as they are shown. -/
inductive SettingsWarning where
  | notMapping (kind : String)
  | rulesNotMapping
  | badRule (code entry : String)
  | notList (key value : String)
  | overrideNotMapping
  | badOverride (level : String)
  | notFlag (key value : String)
  | badThreshold (value : String) (kept : Severity)
  deriving Repr, DecidableEq

/-- The wording of a warning. -/
def SettingsWarning.message : SettingsWarning → String
  | .notMapping kind => "Configuration must be a mapping, got " ++ kind ++ "; using defaults"
  | .rulesNotMapping => "Config 'rules' must be a mapping; ignoring"
  | .badRule code entry => "Skipping invalid config for rule " ++ code ++ ": " ++ entry
  | .notList key value =>
    "Config key '" ++ key ++ "' expects a list, got " ++ value ++ "; ignoring"
  | .overrideNotMapping => "Config 'override' must be a mapping; ignoring"
  | .badOverride level => "Skipping invalid override '" ++ level ++ "'"
  | .notFlag key value =>
    "Config key '" ++ key ++ "' expects true/false, got " ++ value ++ "; ignoring"
  | .badThreshold value kept => "Unknown threshold " ++ value ++ "; keeping " ++ kept.label

/-- What reading a part of the settings gives, with the warnings on the way. -/
abbrev Warned (α : Type) := α × List SettingsWarning

namespace Settings

/-! ## Parts -/

/-- The severity that a value names; only texts name one. -/
def severity? : Value → Option Severity
  | .text s => Severity.ofText? s
  | _ => none

/-- A value, or an empty mapping in place of one that is empty or absent. -/
def orEmpty (v : Value) : Value :=
  if v.isTrue then v else .map []

/-- The settings of a rule in its entry: a level, a level with options, or a mapping
of both. The entry `false` switches the rule off. -/
def ruleOf? (entry : Value) : Option RuleSettings :=
  match entry.opened with
  | .list [] | .tuple [] => none
  | .list [level] | .tuple [level] => (severity? level).map fun l => ⟨some l, []⟩
  | .list (level :: options :: _) | .tuple (level :: options :: _) => do
    let l ← severity? level
    return ⟨some l, ← options.entries?⟩
  | .map _ | .ordered _ => do
    let options ← (orEmpty (entry.getD "options")).entries?
    match entry.get? "level" with
    | none => return ⟨none, options⟩
    | some level => return ⟨some (← severity? level), options⟩
  | .bool false => some ⟨some .ignore, []⟩
  | v => (severity? v).map fun l => ⟨some l, []⟩

/-- A setting that is a list of texts; a text counts as one item. -/
def textsAt (raw : Value) (key : String) : Except NumeralError (Warned (List String)) := do
  match (raw.getD key).opened with
  | .null => return ([], [])
  | .text s => return ([s], [])
  | .list items => return (← items.mapM Value.plain, [])
  | _ => return ([], [.notList key (← (raw.getD key).shown)])

/-- A setting that is a truth value, under the first of some keys that holds one. -/
def flagAt (raw : Value) : List String → Except NumeralError (Warned Bool)
  | [] => .ok (false, [])
  | key :: keys =>
    match raw.get? key with
    | none => flagAt raw keys
    | some (.bool b) => .ok (b, [])
    | some v => do
      let warning := SettingsWarning.notFlag key (← v.shown)
      let (b, warnings) ← flagAt raw keys
      return (b, warning :: warnings)

/-! ## Rules -/

/-- The settings of rules in the order of their entries; the last entry of a rule
holds. -/
def readRules : List (String × RuleSettings) → List (Value × Value) →
    Except NumeralError (Warned (List (String × RuleSettings)))
  | rules, [] => .ok (rules, [])
  | rules, (code, entry) :: rest => do
    let code ← code.plain
    match ruleOf? entry with
    | some r => readRules (updateRule (upper code) (fun _ => r) rules) rest
    | none =>
      let warning := SettingsWarning.badRule code (← entry.shown)
      let (rules, warnings) ← readRules rules rest
      return (rules, warning :: warnings)

/-- The settings with each rule of the listings at the level of its listing. -/
def readOverrides : Settings → List (Value × Value) → Except NumeralError (Warned Settings)
  | s, [] => .ok (s, [])
  | s, (level, codes) :: rest => do
    match severity? level, codes.items? with
    | some l, some items =>
      let codes ← items.mapM Value.plain
      readOverrides (s.setLevels codes l) rest
    | _, _ =>
      let warning := SettingsWarning.badOverride (← level.plain)
      let (s, warnings) ← readOverrides s rest
      return (s, warning :: warnings)

/-- The rule that knows about trusted registries. -/
def registryRule : String := "DL3026"

/-- The settings with some registries as those that are trusted. -/
def trust (s : Settings) (trusted : List String) : Settings :=
  s.update registryRule fun r =>
    { r with options := Value.put (.text "trusted") (.list (trusted.map .text)) r.options }

/-- The settings of rules in the entries of a configuration. -/
def readEntries (raw : Value) : Except NumeralError (Warned (List (String × RuleSettings))) :=
  match (orEmpty (raw.getD "rules")).entries? with
  | some entries => readRules [] entries
  | none => .ok ([], [.rulesNotMapping])

/-- The settings with the levels that the listings of a configuration give. -/
def readListings (raw : Value) (s : Settings) : Except NumeralError (Warned Settings) :=
  match (orEmpty (raw.getD "override")).entries? with
  | some listings => readOverrides s listings
  | none => .ok (s, [.overrideNotMapping])

/-- The settings with the trusted registries of a configuration, if it has a word on them. -/
def readTrusted (raw : Value) (s : Settings) : Except NumeralError (Warned Settings) :=
  if (raw.get? "trustedRegistries").isSome then do
    let (trusted, bad) ← textsAt raw "trustedRegistries"
    return (s.trust trusted, bad)
  else .ok (s, [])

/-- The settings of all rules. -/
def readRuleParts (raw : Value) : Except NumeralError (Warned Settings) := do
  let (rules, badRules) ← readEntries raw
  let (ignored, badIgnored) ← textsAt raw "ignored"
  let s : Settings := { rules := rules }
  let (s, badOverrides) ← readListings raw (s.setLevels ignored .ignore)
  let (s, badTrusted) ← readTrusted raw s
  return (s, badRules ++ badIgnored ++ badOverrides ++ badTrusted)

/-! ## The whole -/

/-- The keys under which a threshold may stand. -/
def thresholdKeys : List String := ["threshold", "failure-threshold", "failureThreshold"]

/-- The threshold under the first of its keys that is there. -/
def readThreshold (raw : Value) : Except NumeralError (Warned Severity) := do
  match thresholdKeys.findSome? fun key => raw.get? key with
  | none => return (.style, [])
  | some v => match severity? v with
    | some l => return (l, [])
    | none => return (.style, [.badThreshold (← v.shown) .style])

/-- The settings in a mapping. -/
def readMapping (raw : Value) : Except NumeralError (Warned Settings) := do
  let (s, w₀) ← readRuleParts raw
  let (quiet, w₁) ← flagAt raw ["quiet"]
  let (debug, w₂) ← flagAt raw ["debug"]
  let (ignorePragmas, w₃) ← flagAt raw ["disableIgnorePragma", "disable-ignore-pragma"]
  let (fixableOnly, w₄) ← flagAt raw ["fixableOnly", "fixable-only"]
  let (noFail, w₅) ← flagAt raw ["no-fail", "noFail"]
  let (strict, w₆) ← flagAt raw ["strict"]
  let (exclude, w₇) ← textsAt raw "exclude"
  let (threshold, w₈) ← readThreshold raw
  return ({ s with
      quiet := quiet, debug := debug, ignorePragmas := ignorePragmas, fixableOnly := fixableOnly,
      noFail := noFail, strict := strict, exclude := exclude, threshold := threshold },
    w₀ ++ w₁ ++ w₂ ++ w₃ ++ w₄ ++ w₅ ++ w₆ ++ w₇ ++ w₈)

/-- The settings in a value. Nothing, or nothing of substance, leaves the defaults. -/
def ofValue (raw : Value) : Except NumeralError (Warned Settings) :=
  if !raw.isTrue then .ok ({}, [])
  else if raw.isMap then readMapping raw
  else .ok ({}, [.notMapping raw.kindName])

end Settings

end ContainerLint
