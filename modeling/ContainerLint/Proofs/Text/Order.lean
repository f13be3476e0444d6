/-
Lists of texts that stand for sets.

To take each text once, and to put the texts in order, changes neither which texts there are
nor that each is there once.
-/
import ContainerLint.Text.Order
import Mathlib.Data.List.Induction
import Mathlib.Data.List.Nodup

namespace ContainerLint.Text

/-- The texts with one more at the end, unless it is there already. -/
def addLast (all : List String) (s : String) : List String :=
  if all.contains s then all else all ++ [s]

theorem distinct_eq_foldl (texts : List String) : distinct texts = texts.foldl addLast [] := rfl

theorem mem_addLast_iff {all : List String} {s t : String} :
    t ∈ addLast all s ↔ t ∈ all ∨ t = s := by
  unfold addLast
  split
  next hmem =>
    rw [List.contains_iff_mem] at hmem
    exact (or_iff_left_of_imp fun h => h ▸ hmem).symm
  next => rw [List.mem_append, List.mem_singleton]

theorem nodup_addLast {all : List String} (h : all.Nodup) (s : String) : (addLast all s).Nodup := by
  unfold addLast
  split
  next => exact h
  next hmem =>
    rw [List.contains_iff_mem] at hmem
    exact List.nodup_append.mpr ⟨h, List.nodup_singleton s, fun a ha b hb hab =>
      hmem (List.mem_singleton.mp hb ▸ hab ▸ ha)⟩

/-- Leaving doubles out loses nothing. -/
theorem mem_distinct_iff {texts : List String} {s : String} : s ∈ distinct texts ↔ s ∈ texts := by
  rw [distinct_eq_foldl]
  induction texts using List.reverseRecOn with
  | nil => rfl
  | append_singleton texts t ih =>
    rw [List.foldl_append, List.foldl_cons, List.foldl_nil, mem_addLast_iff, ih, List.mem_append,
      List.mem_singleton]

/-- Leaving doubles out leaves none. -/
theorem nodup_distinct (texts : List String) : (distinct texts).Nodup := by
  rw [distinct_eq_foldl]
  induction texts using List.reverseRecOn with
  | nil => exact .nil
  | append_singleton texts t ih =>
    rw [List.foldl_append, List.foldl_cons, List.foldl_nil]
    exact nodup_addLast ih t

theorem nodup_eraseDups (texts : List String) : texts.eraseDups.Nodup := by
  induction hn : texts.length using Nat.strongRecOn generalizing texts with
  | _ n ih =>
    cases texts with
    | nil => exact .nil
    | cons s texts =>
      rw [List.eraseDups_cons, List.nodup_cons, List.mem_eraseDups]
      have hshorter := List.length_filter_le (fun t => !t == s) texts
      rw [List.length_cons] at hn
      exact ⟨by simp, ih _ (by omega) _ rfl⟩

/-- Sorting loses nothing either. -/
theorem mem_ordered_iff {texts : List String} {s : String} : s ∈ ordered texts ↔ s ∈ texts :=
  List.mem_mergeSort.trans mem_distinct_iff

theorem nodup_ordered (texts : List String) : (ordered texts).Nodup :=
  (List.mergeSort_perm _ _).nodup_iff.mpr (nodup_distinct texts)

end ContainerLint.Text
