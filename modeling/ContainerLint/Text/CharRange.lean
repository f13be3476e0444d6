/-
Classes of characters. Small ones are stored as closed ranges of code points. Large ones
are stored by the lengths of their runs: the code points from zero on are by turns outside
the class and in it.
-/
namespace ContainerLint.Text

/-- The character lies in one of the closed ranges. -/
def inRanges (ranges : List (Nat × Nat)) (c : Char) : Bool :=
  ranges.any fun r => r.1 ≤ c.toNat && c.toNat ≤ r.2

/-- The code point, counted from the start of the first run, lies in a run of the class; the
first run is one if `inside`. -/
def inRunsFrom (inside : Bool) : List Nat → Nat → Bool
  | [], _ => false
  | length :: runs, n => if n < length then inside else inRunsFrom (!inside) runs (n - length)

/-- The character lies in a run of the class. -/
def inRuns (runs : List Nat) (c : Char) : Bool :=
  inRunsFrom false runs c.toNat

end ContainerLint.Text
