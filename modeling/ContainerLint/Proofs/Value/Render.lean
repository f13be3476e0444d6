/-
Which values have a text, and which are one.

Only numbers can be in the way: a value has a text exactly if every number that is
written in it has one. The numbers inside a value that holds itself count once.
-/
import ContainerLint.Proofs.Result
import ContainerLint.Proofs.Text.Numeral
import ContainerLint.Value.Render

namespace ContainerLint.Value

open ContainerLint.Text

/-- Nothing but a text is the same as a text. -/
theorem same_text_iff {v : Value} {s : String} : same v (.text s) = true ↔ v = .text s := by
  cases v with
  | text t => simp [same]
  | _ => simp [same]

mutual

/-- The numbers that are written where a value is, inside the knots of the given
numbers. -/
def numbersIn (inside : List Nat) : Value → List Int
  | .int n => [n]
  | .list items => numbersInAll inside items
  | .tuple items => numbersInAll inside items
  | .set items => numbersInAll inside items
  | .orderedSet items => numbersInAll inside items
  | .map entries => numbersInEntries inside entries
  | .ordered entries => numbersInEntries inside entries
  | .frozen entries => numbersInEntries inside entries
  | .knot id inner => if inside.contains id then [] else numbersIn (id :: inside) inner
  | _ => []

/-- The numbers that are written where values are. -/
def numbersInAll (inside : List Nat) : List Value → List Int
  | [] => []
  | v :: vs => numbersIn inside v ++ numbersInAll inside vs

/-- The numbers that are written where entries of a mapping are. -/
def numbersInEntries (inside : List Nat) : List (Value × Value) → List Int
  | [] => []
  | (k, v) :: entries => numbersIn inside k ++ numbersIn inside v ++ numbersInEntries inside entries

end

/-- Every number that is written where the value is has a text. -/
def HasText (v : Value) : Prop :=
  ∀ n ∈ numbersIn [] v, IsWritable n

mutual

/-- A value can be shown if its numbers can be written. -/
theorem exists_shownIn_iff (inside : List Nat) :
    ∀ v, (∃ s, shownIn inside v = .ok s) ↔ ∀ n ∈ numbersIn inside v, IsWritable n
  | .null | .bool _ | .float _ | .text _ | .date _ | .moment _ | .bytes _ | .tagged _
  | .again .. => by simp [shownIn, numbersIn]
  | .int n => by simp [shownIn, numbersIn, exists_writeInt_iff]
  | .list items | .tuple items | .orderedSet items => by
    rw [shownIn, numbersIn, exists_bind_pure_iff]
    exact exists_allShown_iff inside items
  | .set items => by
    rw [shownIn, numbersIn]
    cases items with
    | nil => simp [numbersInAll]
    | cons v vs =>
      rw [if_neg (by simp), exists_bind_pure_iff]
      exact exists_allShown_iff inside (v :: vs)
  | .map entries => by
    rw [shownIn, numbersIn, exists_bind_pure_iff]
    exact exists_entriesShown_iff inside entries
  | .ordered entries | .frozen entries => by
    rw [shownIn, numbersIn, exists_bind_pure_iff]
    exact exists_pairsShown_iff inside entries
  | .knot id inner => by
    rw [shownIn, numbersIn]
    -- a knot that is being shown already is shown as dots, so its numbers count once
    by_cases hin : inside.contains id = true
    · simp only [if_pos hin, Except.ok.injEq, exists_eq', List.not_mem_nil, false_imp_iff,
        implies_true]
    · rw [if_neg hin, if_neg hin]
      exact exists_shownIn_iff (id :: inside) inner

theorem exists_allShown_iff (inside : List Nat) :
    ∀ vs, (∃ ss, allShown inside vs = .ok ss) ↔ ∀ n ∈ numbersInAll inside vs, IsWritable n
  | [] => by simp [allShown, numbersInAll]
  | v :: vs => by
    rw [allShown, numbersInAll, List.forall_mem_append, ← exists_shownIn_iff inside v,
      ← exists_allShown_iff inside vs]
    exact exists_bind_iff_and fun _ => exists_bind_pure_iff

theorem exists_entriesShown_iff (inside : List Nat) :
    ∀ entries, (∃ ss, entriesShown inside entries = .ok ss) ↔
      ∀ n ∈ numbersInEntries inside entries, IsWritable n
  | [] => by simp [entriesShown, numbersInEntries]
  | (k, v) :: entries => by
    rw [entriesShown, numbersInEntries, List.forall_mem_append, List.forall_mem_append,
      ← exists_shownIn_iff inside k, ← exists_shownIn_iff inside v,
      ← exists_entriesShown_iff inside entries, and_assoc]
    exact exists_bind_iff_and fun _ => exists_bind_iff_and fun _ => exists_bind_pure_iff

theorem exists_pairsShown_iff (inside : List Nat) :
    ∀ entries, (∃ ss, pairsShown inside entries = .ok ss) ↔
      ∀ n ∈ numbersInEntries inside entries, IsWritable n
  | [] => by simp [pairsShown, numbersInEntries]
  | (k, v) :: entries => by
    rw [pairsShown, numbersInEntries, List.forall_mem_append, List.forall_mem_append,
      ← exists_shownIn_iff inside k, ← exists_shownIn_iff inside v,
      ← exists_pairsShown_iff inside entries, and_assoc]
    exact exists_bind_iff_and fun _ => exists_bind_iff_and fun _ => exists_bind_pure_iff

end

theorem exists_shown_iff (v : Value) : (∃ s, v.shown = .ok s) ↔ v.HasText :=
  exists_shownIn_iff [] v

/-- **A value has a text exactly if the numbers in it have one.** -/
theorem exists_plain_iff (v : Value) : (∃ s, v.plain = .ok s) ↔ v.HasText := by
  cases v with
  | text | date | moment | tagged => simp [plain, HasText, numbersIn]
  | _ => exact exists_shown_iff _

/-- A value has a plain form if its numbers can be written. -/
theorem exists_plain?_iff (v : Value) : (∃ s, v.plain? = .ok s) ↔ v.HasText := by
  rw [← exists_plain_iff]
  cases v with
  | null => simp [plain?, plain, shown, shownIn]
  | _ =>
    rw [plain?, exists_map_eq_ok_iff]
    exact fun h => nomatch h

/-- A value that counts as false has a text: of all numbers, only zero does. -/
theorem hasText_of_not_isTrue {v : Value} (h : ¬ v.isTrue = true) : v.HasText := by
  have hzero : IsWritable 0 := Nat.pow_pos (by decide)
  -- a knot counts as what it holds does, and one that holds a knot counts as true
  have hbare : ∀ inside v, v.bare = v → ¬ v.isTrue = true →
      ∀ n ∈ numbersIn inside v, IsWritable n := by
    intro inside v hv h
    unfold isTrue at h
    rw [hv] at h
    cases v <;> simp_all [numbersIn, numbersInAll, numbersInEntries]
  cases v with
  | knot id inner =>
    cases inner with
    | knot => simp [isTrue, bare] at h
    | _ => exact hbare [id] _ rfl h
  | _ => exact hbare [] _ rfl h

end ContainerLint.Value
