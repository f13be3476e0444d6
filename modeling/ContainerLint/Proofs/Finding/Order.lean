/-
The order of failures, and what sorting keeps.

Failures are compared part by part: by file, line, severity, code and message. Read as
one key, the parts stand in the lexicographic order of a product, so that the order of
failures is total and transitive, and failures of equal keys tie.

Sorting by such an order is stable, which is more than that ties keep their places:
leaving entries out before sorting is leaving them out afterwards.
-/
import ContainerLint.Finding.Failure
import Mathlib.Data.List.Sort
import Mathlib.Data.Prod.Lex
import Mathlib.Data.String.Basic

namespace ContainerLint

/-! ## Stable sorting -/

section Stable

variable {α : Type} {le : α → α → Bool}

/-- A list that starts with entries that satisfy a condition and goes on with entries
that do not is cut between them. -/
theorem cut_append {q : α → Bool} {front back : List α} (hfront : ∀ b ∈ front, q b = true)
    (hback : ∀ b ∈ back, ¬ q b = true) :
    (front ++ back).takeWhile q = front ∧ (front ++ back).dropWhile q = back := by
  rw [List.takeWhile_append_of_pos hfront, List.dropWhile_append_of_pos hfront]
  cases back with
  | nil => exact ⟨by rw [List.takeWhile_nil, List.append_nil], rfl⟩
  | cons b back =>
    have hb := hback b List.mem_cons_self
    exact ⟨by rw [List.takeWhile_cons_of_neg hb, List.append_nil],
      List.dropWhile_cons_of_neg hb⟩

/-- Sorting puts a new first entry behind those that it may not stand before, and before
all others. -/
theorem mergeSort_cons_split (htrans : ∀ a b c, le a b → le b c → le a c)
    (htotal : ∀ a b, le a b || le b a) (a : α) (l : List α) :
    ∃ front back, (a :: l).mergeSort le = front ++ a :: back ∧
      l.mergeSort le = front ++ back ∧
      (∀ b ∈ front, (!le a b) = true) ∧ ∀ b ∈ back, ¬ (!le a b) = true := by
  obtain ⟨front, back, hsorted, hrest, hfront⟩ := List.mergeSort_cons htrans htotal a l
  have hpairs := List.pairwise_mergeSort htrans htotal (a :: l)
  rw [hsorted, List.pairwise_append, List.pairwise_cons] at hpairs
  refine ⟨front, back, hsorted, hrest, hfront, fun b hb => ?_⟩
  rw [hpairs.2.1.1 b hb]
  decide

/-- Sorting by halves is inserting one entry after the other. -/
theorem mergeSort_eq_insertionSort (htrans : ∀ a b c, le a b → le b c → le a c)
    (htotal : ∀ a b, le a b || le b a) (l : List α) :
    l.mergeSort le = l.insertionSort fun a b => le a b = true := by
  induction l with
  | nil => rw [List.mergeSort_nil, List.insertionSort_nil]
  | cons a l ih =>
    obtain ⟨front, back, hsorted, hrest, hfront, hback⟩ :=
      mergeSort_cons_split htrans htotal a l
    obtain ⟨htake, hdrop⟩ := cut_append hfront hback
    rw [List.insertionSort_cons, ← ih, hrest, List.orderedInsert_eq_take_drop, hsorted]
    simp only [decide_not, Bool.decide_eq_true]
    rw [htake, hdrop]

/-- **Entries may be left out before sorting or after it.** Sorting is determined by
where it puts the first entry among the others, and leaving entries out does not move
that place. -/
theorem filter_mergeSort (htrans : ∀ a b c, le a b → le b c → le a c)
    (htotal : ∀ a b, le a b || le b a) (p : α → Bool) (l : List α) :
    (l.mergeSort le).filter p = (l.filter p).mergeSort le := by
  induction l with
  | nil => simp only [List.mergeSort_nil, List.filter_nil]
  | cons a l ih =>
    obtain ⟨front, back, hsorted, hrest, hfront, hback⟩ :=
      mergeSort_cons_split htrans htotal a l
    rw [hrest, List.filter_append] at ih
    rw [hsorted, List.filter_append]
    by_cases ha : p a = true
    · rw [List.filter_cons_of_pos ha, List.filter_cons_of_pos ha]
      obtain ⟨front', back', hsorted', hrest', hfront', hback'⟩ :=
        mergeSort_cons_split htrans htotal a (l.filter p)
      -- What is left of the two parts, and the two parts of what is left, are cuts of one
      -- list at one place.
      obtain ⟨htake, hdrop⟩ := cut_append
        (fun b hb => hfront b (List.mem_of_mem_filter hb))
        (fun b hb => hback b (List.mem_of_mem_filter hb))
      obtain ⟨htake', hdrop'⟩ := cut_append hfront' hback'
      rw [ih, hrest', htake'] at htake
      rw [ih, hrest', hdrop'] at hdrop
      rw [hsorted', htake, hdrop]
    · rw [List.filter_cons_of_neg ha, List.filter_cons_of_neg ha]
      exact ih

end Stable

/-! ## The order of failures -/

namespace Failure

/-- What failures are compared by. -/
def key (f : Failure) : String ×ₗ Int ×ₗ Nat ×ₗ String ×ₗ String :=
  toLex (f.file, toLex (f.line, toLex (f.severity.rank, toLex (f.code, f.message))))

/-- A part that decides unless it is the same is the first part of a product. -/
theorem orElse_eq {α β : Type} [LinearOrder α] [LinearOrder β] (a a' : α) (b b' : β) :
    orElse a a' (decide (b < b')) = decide (toLex (a, b) < toLex (a', b')) := by
  unfold orElse
  by_cases hlt : a < a'
  · rw [if_pos hlt]
    exact (decide_eq_true (Prod.Lex.toLex_lt_toLex.mpr (.inl hlt))).symm
  · by_cases heq : a = a'
    · rw [if_neg hlt, if_pos heq]
      refine decide_eq_decide.mpr ?_
      rw [Prod.Lex.toLex_lt_toLex]
      exact ⟨fun h => .inr ⟨heq, h⟩, fun h => (h.resolve_left hlt).2⟩
    · rw [if_neg hlt, if_neg heq]
      refine (decide_eq_false fun h => ?_).symm
      rcases Prod.Lex.toLex_lt_toLex.mp h with h | h
      · exact hlt h
      · exact heq h.1

theorem before_eq (a b : Failure) : a.before b = decide (a.key < b.key) := by
  unfold before key
  rw [orElse_eq, orElse_eq, orElse_eq, orElse_eq]

/-- **Failures stand in the order of their keys.** -/
theorem notAfter_eq (a b : Failure) : a.notAfter b = decide (a.key ≤ b.key) := by
  unfold notAfter
  rw [before_eq, ← decide_not]
  exact decide_eq_decide.mpr not_lt

/-- The order of failures is transitive. -/
theorem notAfter_trans (a b c : Failure) (hab : a.notAfter b) (hbc : b.notAfter c) :
    a.notAfter c := by
  rw [notAfter_eq, decide_eq_true_eq] at hab hbc ⊢
  exact hab.trans hbc

/-- The order of failures is total. -/
theorem notAfter_total (a b : Failure) : a.notAfter b || b.notAfter a := by
  rw [notAfter_eq, notAfter_eq, Bool.or_eq_true, decide_eq_true_eq, decide_eq_true_eq]
  exact le_total a.key b.key

/-- Sorting is by insertion too, which the kernel can compute. -/
theorem sorted_eq_insertionSort (fs : List Failure) :
    sorted fs = fs.insertionSort fun a b => a.notAfter b = true :=
  mergeSort_eq_insertionSort notAfter_trans notAfter_total fs

/-- Failures may be left out before they are sorted or afterwards. -/
theorem filter_sorted (p : Failure → Bool) (fs : List Failure) :
    (sorted fs).filter p = sorted (fs.filter p) :=
  filter_mergeSort notAfter_trans notAfter_total p fs

/-- Failures that are there in this order are still so when all are sorted, also if one
of them is there several times. -/
theorem sorted_sublist {fs gs : List Failure} (h : fs.Sublist gs) :
    (sorted fs).Sublist (sorted gs) := by
  have htrans : IsTrans Failure fun a b => a.notAfter b = true := ⟨notAfter_trans⟩
  have htotal : Std.Total fun a b : Failure => a.notAfter b = true := by
    refine ⟨fun a b => ?_⟩
    rw [← Bool.or_eq_true]
    exact notAfter_total a b
  rw [sorted_eq_insertionSort, sorted_eq_insertionSort]
  induction h with
  | slnil => exact List.Sublist.refl _
  | @cons fs gs a h ih =>
    rw [List.insertionSort_cons]
    exact ih.trans (List.sublist_orderedInsert a _)
  | @cons_cons fs gs a h ih =>
    rw [List.insertionSort_cons, List.insertionSort_cons]
    exact ih.orderedInsert_sublist a (List.pairwise_insertionSort _ _)

end Failure

end ContainerLint
