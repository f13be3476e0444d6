/-
The rules for build files, in the order of their codes.
-/
import ContainerLint.Rule.Catalogue
import ContainerLint.Rule.Dockerfile.Command
import ContainerLint.Rule.Dockerfile.Instruction
import ContainerLint.Rule.Dockerfile.Stage

namespace ContainerLint.Dockerfile

/-- The check of a condition on single instructions. -/
def always (holds : Node → Bool) : Check :=
  .nodes fun _ => (Checker.ofCondition holds).trace

/-- The check of a state machine that has no options. -/
def follow {State : Type} (c : NodeChecker State) : Check :=
  .nodes fun _ => c.trace

/-- There is a health check, if there are instructions at all. -/
def hasHealthcheck (entries : List Positioned) : Bool :=
  let instructions := (entries.map (·.instruction)).filter (!·.isComment)
  instructions.isEmpty || instructions.any isHealthcheck

/-- Reports that there is no health check. -/
def missingHealthcheck : Check :=
  .buildFile fun info _ path entries =>
    if hasHealthcheck entries then [] else [info.failureAt info.message path 1]

/-- The rules for build files. -/
def bundledRules : List Rule := [
  { code := "DL3000", severity := .error, name := "absolute-workdir"
    message := "Use absolute WORKDIR"
    check := always Node.hasAbsoluteWorkdir },
  { code := "DL3002", severity := .warning, name := "last-user-not-root"
    message := "Last USER should not be root"
    check := follow lastUser },
  { code := "DL3004", severity := .error, name := "no-sudo"
    message := "Do not use sudo as it leads to unpredictable behavior. " ++
      "Use a tool like gosu to enforce root"
    check := always Node.avoidsSudo },
  { code := "DL3006", severity := .warning, name := "tag-image-version"
    message := "Always tag the version of an image explicitly"
    check := follow taggedImage },
  { code := "DL3007", severity := .warning, name := "no-latest-tag"
    message := "Using latest is prone to errors if the image will ever update. " ++
      "Pin the version explicitly to a release tag"
    check := always Node.avoidsLatest },
  { code := "DL3012", severity := .error, name := "single-healthcheck"
    message := "Multiple `HEALTHCHECK` instructions."
    check := follow (onceInStage isHealthcheck) },
  { code := "DL3015", severity := .info, name := "apt-no-install-recommends"
    message := "Avoid additional packages by specifying `--no-install-recommends`."
    check := always Node.avoidsRecommends },
  { code := "DL3020", severity := .error, name := "copy-not-add"
    message := "Use COPY instead of ADD for files and folders"
    fixable := true
    check := always Node.addsRemoteOrArchive },
  { code := "DL3022", severity := .warning, name := "copy-from-known-stage"
    message := "`COPY --from` should reference a previously defined `FROM` alias"
    check := follow copyFromKnown },
  { code := "DL3023", severity := .error, name := "copy-from-other-stage"
    message := "`COPY --from` cannot reference its own `FROM` alias"
    check := follow copyFromOther },
  { code := "DL3024", severity := .error, name := "unique-stage-alias"
    message := "`FROM` aliases (stage names) must be unique"
    check := follow uniqueStage },
  { code := "DL3025", severity := .warning, name := "json-cmd"
    message := "Use arguments JSON notation for CMD and ENTRYPOINT arguments"
    fixable := true
    check := always Node.startsByExec },
  { code := "DL3026", severity := .error, name := "trusted-registry"
    message := "Use only an allowed registry in the `FROM image`"
    check := .nodes fun options => (trustedRegistry options).trace },
  { code := "DL3042", severity := .warning, name := "pip-no-cache-dir"
    message := "Avoid use of cache directory with pip. " ++
      "Use `pip install --no-cache-dir <package>`."
    check := always Node.avoidsPipCache },
  { code := "DL3044", severity := .error, name := "env-self-reference"
    message := "Do not refer to an environment variable within the same `ENV` statement " ++
      "where it is defined."
    check := always Node.avoidsSelfReference },
  { code := "DL3045", severity := .warning, name := "copy-relative-without-workdir"
    message := "`COPY` to a relative destination without `WORKDIR` set."
    check := follow relativeCopy },
  { code := "DL3048", severity := .style, name := "label-key"
    message := "Invalid label key."
    check := always Node.hasValidLabels },
  { code := "DL3057", severity := .info, name := "healthcheck-missing"
    message := "`HEALTHCHECK` instruction missing."
    check := missingHealthcheck },
  { code := "DL3059", severity := .info, name := "consolidate-run"
    message := "Multiple consecutive `RUN` instructions. Consider consolidation."
    check := follow consecutiveRuns },
  { code := "DL4000", severity := .error, name := "maintainer-deprecated"
    message := "MAINTAINER is deprecated"
    fixable := true
    check := always Node.avoidsMaintainer },
  { code := "DL4001", severity := .warning, name := "wget-or-curl"
    message := "Either use `wget` or `curl`, but not both."
    check := follow oneDownloader },
  { code := "DL4003", severity := .warning, name := "single-cmd"
    message := "Multiple `CMD` instructions found. If you list more than one `CMD` " ++
      "then only the last `CMD` will take effect"
    check := follow (onceInStage isCmd) },
  { code := "DL4004", severity := .error, name := "single-entrypoint"
    message := "Multiple `ENTRYPOINT` instructions found. If you list more than one " ++
      "`ENTRYPOINT` then only the last `ENTRYPOINT` will take effect"
    check := follow (onceInStage isEntrypoint) },
  { code := "DL4006", severity := .warning, name := "pipefail"
    message := "Set the SHELL option -o pipefail before RUN with a pipe in it"
    check := follow pipefail }]

end ContainerLint.Dockerfile
