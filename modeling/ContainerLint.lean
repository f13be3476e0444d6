import ContainerLint.Main
import ContainerLint.Proofs.Chart.Description
import ContainerLint.Proofs.Cli.ExitCode
import ContainerLint.Proofs.Dockerfile.ExecForm
import ContainerLint.Proofs.Dockerfile.HeredocScript
import ContainerLint.Proofs.Dockerfile.LegacyPair
import ContainerLint.Proofs.Dockerfile.Pairs
import ContainerLint.Proofs.Dockerfile.WellFormed
import ContainerLint.Proofs.Lint.Discovery
import ContainerLint.Proofs.Lint.Layout
import ContainerLint.Proofs.Lint.Presence
import ContainerLint.Proofs.Lint.Strict
import ContainerLint.Proofs.Lint.Threshold
import ContainerLint.Proofs.Pragma.CommentEnd
import ContainerLint.Proofs.Pragma.Union
import ContainerLint.Proofs.Rule.CopyFrom
import ContainerLint.Proofs.Rule.Deferral
import ContainerLint.Proofs.Rule.Download
import ContainerLint.Proofs.Rule.HelperUse
import ContainerLint.Proofs.Rule.Literal
import ContainerLint.Proofs.Rule.Reference
import ContainerLint.Proofs.Rule.SelfReference
import ContainerLint.Proofs.Rule.StageName
import ContainerLint.Proofs.Rule.ValuePath
import ContainerLint.Proofs.Rule.Workdir
import ContainerLint.Proofs.Settings.Rejection
import ContainerLint.Proofs.Shell.Quoting
import ContainerLint.Proofs.Template.Variable
