/-
The catalogue of all rules: those for build files, then those for charts.
-/
import ContainerLint.Rule.Chart.Bundled
import ContainerLint.Rule.Dockerfile.Bundled

namespace ContainerLint.Catalogue

/-- All rules. -/
def bundled : Catalogue where
  rules := Dockerfile.bundledRules ++ Chart.bundledRules
  nodup := by decide +kernel

end ContainerLint.Catalogue
