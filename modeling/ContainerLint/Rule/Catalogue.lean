/-
Rules and catalogues of rules. A rule either meets the nodes of a document one after
the other or sees the whole at once, and looks at build files or at charts. A
catalogue holds rules of different codes, in the order in which they run.
-/
import ContainerLint.Rule.Chart.View
import ContainerLint.Rule.Dockerfile.Node
import ContainerLint.Text.Cut
import ContainerLint.Text.Order

namespace ContainerLint

open ContainerLint.Text

/-- What a rule checks. -/
inductive Check where
  /-- The instructions of a build file, one after the other. -/
  | nodes (run : RuleOptions → List (Nat × Dockerfile.Node) → Except Stop Trace)
  /-- A build file as a whole, by its path and its instructions. -/
  | buildFile (check : RuleInfo → RuleOptions → String → List Dockerfile.Positioned → List Failure)
  /-- The tokens of a template, one after the other. -/
  | tokens (run : RuleOptions → List (Nat × Template.Token) → Except Stop Trace)
  /-- A chart as a whole. -/
  | chart (check : RuleInfo → RuleOptions → Chart.View → Except RuleError (List Failure))

/-- What the check looks at. -/
def Check.domain : Check → Domain
  | .nodes _ | .buildFile _ => .dockerfile
  | .tokens _ | .chart _ => .chart

/-- The check goes from node to node. -/
def Check.isStreaming : Check → Bool
  | .nodes _ | .tokens _ => true
  | .buildFile _ | .chart _ => false

/-- The name of the way in which the check goes. -/
def Check.kind (c : Check) : String :=
  if c.isStreaming then "streaming" else "context"

/-- A rule: what is known of it, and what it checks. -/
structure Rule extends RuleInfo where
  check : Check

/-- A rule with a code that another rule has already. -/
structure DuplicateCode where
  code : String
  deriving Repr, DecidableEq

/-- The wording of the error. -/
def DuplicateCode.message (e : DuplicateCode) : String :=
  "Duplicate rule code: " ++ e.code

/-- Rules of different codes, in order. -/
structure Catalogue where
  rules : List Rule
  nodup : (rules.map fun r => r.code).Nodup

namespace Catalogue

/-- The codes of a catalogue. -/
def codes (c : Catalogue) : List String :=
  c.rules.map fun r => r.code

/-- No rules. -/
def empty : Catalogue := ⟨[], by simp⟩

/-- The catalogue with one more rule, unless its code is taken. -/
def add (c : Catalogue) (r : Rule) : Except DuplicateCode Catalogue :=
  if h : r.code ∈ c.rules.map (fun r => r.code) then .error ⟨r.code⟩
  else .ok ⟨c.rules ++ [r], by
    rw [List.map_append, List.nodup_append]
    refine ⟨c.nodup, by simp, ?_⟩
    intro a ha b hb same
    simp only [List.map_cons, List.map_nil, List.mem_singleton] at hb
    exact h (hb ▸ same ▸ ha)⟩

/-- The catalogue of the rules of a list. -/
def ofRules (rules : List Rule) : Except DuplicateCode Catalogue :=
  rules.foldlM add empty

/-- The rule of a code. -/
def get? (c : Catalogue) (code : String) : Option Rule :=
  c.rules.find? fun r => r.code == code

/-- The rules whose codes are wanted, in the order of the catalogue. -/
def subset (c : Catalogue) (wanted : List String) : Catalogue where
  rules := c.rules.filter fun r => wanted.contains r.code
  nodup := c.nodup.sublist (List.filter_sublist.map _)

/-- The wanted codes that no rule has, in order. -/
def unknown (c : Catalogue) (wanted : List String) : List String :=
  ordered (wanted.filter (!c.codes.contains ·))

/-- What is said of wanted codes that no rule has. -/
def warning? (c : Catalogue) (wanted : List String) : Option String :=
  match c.unknown wanted with
  | [] => none
  | codes => some ("Unknown rule codes ignored: " ++ joinWith ", " codes)

/-- The rules for a domain, of one kind. -/
def rulesFor (c : Catalogue) (domain : Domain) (streaming : Bool) : List Rule :=
  c.rules.filter fun r => r.check.domain == domain && r.check.isStreaming == streaming

end Catalogue

end ContainerLint
