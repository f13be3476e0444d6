/-
The rules for charts, in the order of their codes.
-/
import ContainerLint.Rule.Catalogue
import ContainerLint.Rule.Chart.Structure
import ContainerLint.Rule.Chart.Template
import ContainerLint.Rule.Chart.Values

namespace ContainerLint.Chart

/-- The failures of a rule from what it finds. -/
def failuresOf (info : RuleInfo) (findings : List Finding) : List Failure :=
  findings.map fun f => info.failureAt f.message f.file f.line

/-- The check of a chart that always comes to an end. -/
def always (find : View → List Finding) : Check :=
  .chart fun info _ view => .ok (failuresOf info (find view))

/-- The check of a chart that may stop at a value. -/
def attempt (find : View → Except RuleError (List Finding)) : Check :=
  .chart fun info _ view => (find view).map (failuresOf info)

/-- The check of the tokens of templates. -/
def follow {State : Type} (c : Checker Template.Token State) : Check :=
  .tokens fun _ => c.trace

/-- What is said of a container with all rights. -/
def privilegedMessage : String :=
  "Container is configured with privileged: true"

/-- What is said of a pod on the network of its host. -/
def hostNetworkMessage : String :=
  "Pod uses host network. This bypasses network policies"

/-- The rules for charts. -/
def bundledRules : List Rule := [
  { code := "HL1001", severity := .error, name := "missing-chart-yaml"
    message := "Chart must have a Chart.yaml file"
    check := always missingChartFile },
  { code := "HL1002", severity := .error, name := "invalid-api-version"
    message := "Chart apiVersion must be v1 or v2"
    check := always badApiVersion },
  { code := "HL1003", severity := .error, name := "missing-name"
    message := "Chart.yaml must have a name field"
    check := always missingName },
  { code := "HL1004", severity := .error, name := "missing-version"
    message := "Chart.yaml must have a version field"
    check := always missingVersion },
  { code := "HL1005", severity := .warning, name := "invalid-semver"
    message := "Chart version should be valid SemVer"
    check := always badVersion },
  { code := "HL1006", severity := .info, name := "missing-description"
    message := "Chart should have a description"
    check := always missingDescription },
  { code := "HL1007", severity := .info, name := "missing-maintainers"
    message := "Chart should list maintainers"
    check := always missingMaintainers },
  { code := "HL1008", severity := .warning, name := "chart-deprecated"
    message := "Chart is marked as deprecated"
    check := always deprecatedChart },
  { code := "HL1009", severity := .warning, name := "missing-templates"
    message := "Chart should have a templates directory"
    check := always missingTemplates },
  { code := "HL1011", severity := .warning, name := "missing-values-yaml"
    message := "Chart should have a values.yaml file"
    check := always missingValuesFile },
  { code := "HL1012", severity := .error, name := "invalid-chart-name"
    message := "Chart name must contain only lowercase alphanumeric characters and hyphens"
    check := always badName },
  { code := "HL1013", severity := .warning, name := "icon-not-https"
    message := "Chart icon URL should use HTTPS"
    check := always (plainAddress "Icon" Metadata.icon) },
  { code := "HL1014", severity := .warning, name := "home-not-https"
    message := "Chart home URL should use HTTPS"
    check := always (plainAddress "Home" Metadata.home) },
  { code := "HL1015", severity := .error, name := "duplicate-dependencies"
    message := "Chart has duplicate dependency names"
    check := always duplicateDependencies },
  { code := "HL1016", severity := .warning, name := "dependency-missing-version"
    message := "Chart dependency is missing a version"
    check := always (dependencyLacks "version" Dependency.version) },
  { code := "HL1017", severity := .error, name := "dependency-missing-repository"
    message := "Chart dependency is missing a repository"
    check := always (dependencyLacks "repository" Dependency.repository) },
  { code := "HL2002", severity := .warning, name := "undefined-value"
    message := "Value is referenced in template but not defined in values.yaml"
    check := always undefinedValues },
  { code := "HL2003", severity := .info, name := "unused-value"
    message := "Value is defined in values.yaml but never used in templates"
    check := always unusedValues },
  { code := "HL2004", severity := .warning, name := "sensitive-value-exposed"
    message := "Sensitive value should be handled as a Kubernetes Secret"
    check := always sensitiveValues },
  { code := "HL2005", severity := .error, name := "invalid-port"
    message := "Port number must be between 1 and 65535"
    check := attempt badPorts },
  { code := "HL2007", severity := .warning, name := "image-tag-latest"
    message := "Using 'latest' tag is prone to unexpected changes"
    check := always latestTags },
  { code := "HL2008", severity := .warning, name := "zero-replicas"
    message := "Replica count is zero which means no pods will be created"
    check := attempt zeroReplicas },
  { code := "HL3001", severity := .error, name := "unclosed-action"
    message := "Template has unclosed action (missing \x7d\x7d)"
    check := always unclosedActions },
  { code := "HL3002", severity := .error, name := "unclosed-block"
    message := "Template has unclosed control block (if/range/with)"
    check := always unclosedBlocks },
  { code := "HL3005", severity := .warning, name := "deprecated-function"
    message := "Template uses deprecated function"
    check := follow deprecatedFunction },
  { code := "HL3007", severity := .warning, name := "invalid-template-extension"
    message := "Template file should have .yaml, .yml, or .tpl extension"
    check := always oddTemplateFiles },
  { code := "HL3008", severity := .info, name := "missing-notes"
    message := "Chart should have a NOTES.txt for post-install instructions"
    check := always missingNotes },
  { code := "HL3009", severity := .info, name := "helper-missing-comment"
    message := "Helper template should have a description comment"
    check := always undescribedHelpers },
  { code := "HL3010", severity := .info, name := "unused-helper"
    message := "Helper template is defined but never used"
    check := always unusedHelpers },
  { code := "HL3011", severity := .error, name := "include-not-found"
    message := "Template includes a helper that is not defined"
    check := always missingIncludes },
  { code := "HL4002", severity := .error, name := "privileged-container"
    message := privilegedMessage
    check := follow (literalSetting "privileged: true" privilegedMessage) },
  { code := "HL4004", severity := .warning, name := "host-network"
    message := hostNetworkMessage
    check := follow (literalSetting "hostNetwork: true" hostNetworkMessage) }]

end ContainerLint.Chart
