/-
Lists of texts that stand for sets: each text once, in the order in which they come or
in the order of their characters.
-/
namespace ContainerLint.Text

/-- The texts, each once, at the place where it first occurs. -/
def distinct (texts : List String) : List String :=
  texts.foldl (fun all s => if all.contains s then all else all ++ [s]) []

/-- The texts in order, each once. -/
def ordered (texts : List String) : List String :=
  (distinct texts).mergeSort fun a b => !decide (b < a)

end ContainerLint.Text
