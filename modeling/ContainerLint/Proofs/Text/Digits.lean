/-
Texts in which every run of digits is a number.

A run of digits can be read if all of them are decimal and there are not too many. A
text that has no other runs keeps this through all that is done to it before its
numbers are read: stretches are cut out of it and put together again with a character
between them that is no digit, and a name is put in lower case, which neither makes nor
unmakes a digit.
-/
import ContainerLint.Proofs.Text.Numeral
import ContainerLint.Proofs.Text.Stretch
import ContainerLint.Text.Case

namespace ContainerLint.Text

/-- The digits of the text are decimal, and no more of them stand in a row than a number
may have. -/
structure HasPlainDigits (cs : List Char) : Prop where
  decimal : ∀ c ∈ cs, isDigit c = true → isDecimal c = true
  short : ∀ run, run <:+: cs → (∀ c ∈ run, isDigit c = true) → run.length ≤ maxDigits

namespace HasPlainDigits

variable {a b cs : List Char} {c : Char}

/-- A stretch of a text with plain digits has plain digits. -/
theorem of_isInfix (h : HasPlainDigits cs) (ha : a <:+: cs) : HasPlainDigits a where
  decimal := fun c hc => h.decimal c (ha.subset hc)
  short := fun run hrun => h.short run (hrun.trans ha)

theorem nil : HasPlainDigits [] where
  decimal := fun _ hc => (nomatch hc)
  short := fun run hrun _ => by rw [List.infix_nil.mp hrun]; exact Nat.zero_le _

/-- **No run of digits goes over a character that is none.** -/
theorem append_cons (ha : HasPlainDigits a) (hb : HasPlainDigits b) (hc : isDigit c = false) :
    HasPlainDigits (a ++ c :: b) where
  decimal := by
    intro d hd hdigit
    rcases List.mem_append.mp hd with hd | hd
    · exact ha.decimal d hd hdigit
    · rcases List.mem_cons.mp hd with rfl | hd
      · rw [hc] at hdigit
        cases hdigit
      · exact hb.decimal d hd hdigit
  short := by
    intro run hrun hdigits
    -- so the run lies on one side of the character
    have hnot : c ∉ run := fun hmem => by
      have := hdigits c hmem
      rw [hc] at this
      cases this
    rcases infix_or_infix_of_not_mem hrun hnot with h | h
    · exact ha.short run h hdigits
    · exact hb.short run h hdigits

/-- Texts with plain digits may be joined by anything but a digit. -/
theorem join {sep : Char} (hsep : isDigit sep = false) {pieces : List (List Char)}
    (h : ∀ piece ∈ pieces, HasPlainDigits piece) : HasPlainDigits (join [sep] pieces) := by
  induction pieces with
  | nil => exact nil
  | cons piece pieces ih =>
    rw [List.forall_mem_cons] at h
    cases pieces with
    | nil => exact h.1
    | cons next pieces =>
      rw [join_cons_of_ne_nil _ _ (List.cons_ne_nil _ _), List.append_assoc]
      exact h.1.append_cons (ih h.2) hsep

/-- **A text of plain digits is a number.** -/
theorem exists_readDecimal (h : HasPlainDigits cs) (hne : cs ≠ [])
    (hdigits : ∀ c ∈ cs, isDigit c = true) : ∃ n, readDecimal cs = .ok n :=
  (exists_readDecimal_iff cs).mpr
    { ne_nil := hne
      length_le := h.short cs (List.infix_refl cs) hdigits
      decimal := fun c hc => h.decimal c hc (hdigits c hc) }

end HasPlainDigits

/-- Digits are not plain if one is no decimal, or too many stand together. -/
theorem not_hasPlainDigits_iff {cs : List Char} : ¬ HasPlainDigits cs ↔
    (∃ c ∈ cs, isDigit c = true ∧ isDecimal c = false) ∨
      ∃ run, run <:+: cs ∧ (∀ c ∈ run, isDigit c = true) ∧ maxDigits < run.length := by
  constructor
  · intro h
    by_contra hnone
    simp only [not_or, not_exists, not_and, Bool.not_eq_false, Nat.not_lt] at hnone
    exact h ⟨hnone.1, hnone.2⟩
  · rintro (⟨c, hc, hdigit, hdecimal⟩ | ⟨run, hrun, hdigits, hlong⟩) h
    · rw [h.decimal c hc hdigit] at hdecimal
      cases hdecimal
    · exact absurd (h.short run hrun hdigits) (Nat.not_le.mpr hlong)

/-! ## Lower case -/

/-- The ranges of all digits. -/
def digitRanges : List (Nat × Nat) := decimalRanges ++ otherDigitRanges

theorem isDigit_eq_inRanges (c : Char) : isDigit c = inRanges digitRanges c := by
  have hdecimal : isDecimal c = inRanges decimalRanges c := by
    rw [isDecimal, decimalValue?, Option.isSome_map, List.isSome_find?, inRanges]
  rw [isDigit, hdecimal, digitRanges, inRanges, inRanges, inRanges, List.any_append]

/-- No run of the lower-case map ends at a digit. -/
theorem lowerRuns_disjoint_digits : ∀ r ∈ lowerRuns, ∀ d ∈ digitRanges,
    ((r.last : Int) + r.shift).toNat < d.1 ∨ d.2 < ((r.first : Int) + r.shift).toNat := by
  decide +kernel

/-- The character of a number has that number, or there is none and it is the first. -/
theorem toNat_ofNat_or (n : Nat) : (Char.ofNat n).toNat = n ∨ (Char.ofNat n).toNat = 0 := by
  by_cases hvalid : n.isValidChar
  · left
    rw [Char.ofNat, dif_pos hvalid]
    rfl
  · right
    rw [Char.ofNat, dif_neg hvalid]
    rfl

/-- No letter has a digit for its lower case. -/
theorem not_isDigit_of_moved {n m : Nat} (h : lowerRuns.findSome? (·.moved? n) = some m) :
    isDigit (Char.ofNat m) = false := by
  obtain ⟨r, hr, hm⟩ := List.exists_of_findSome?_eq_some h
  rw [CaseRun.moved?] at hm
  split at hm
  next hrun =>
    simp only [Bool.and_eq_true, decide_eq_true_eq] at hrun
    cases hm
    rw [isDigit_eq_inRanges, inRanges]
    rcases toNat_ofNat_or ((n : Int) + r.shift).toNat with hvalid | hzero
    · rw [hvalid, List.any_eq_false]
      intro d hd
      have hdisjoint := lowerRuns_disjoint_digits r hr d hd
      simp only [Bool.and_eq_true, decide_eq_true_eq]
      omega
    · rw [hzero]
      decide
  next => cases hm

theorem toLower_eq_of_isDigit {c : Char} (hc : c.toNat < 128) (h : isDigit c.toLower = true) :
    c.toLower = c := by
  have hall : ∀ n < 128, isDigit (Char.ofNat n).toLower = true →
      (Char.ofNat n).toLower = Char.ofNat n := by decide +kernel
  have hlower := hall c.toNat hc
  rw [Char.ofNat_toNat] at hlower
  exact hlower h

/-- Only a digit is lowered to digits. -/
theorem lowerWide_of_digits {c : Char} (h : ∀ d ∈ lowerWide c, isDigit d = true) :
    lowerWide c = [c] := by
  rw [lowerWide] at h ⊢
  split at h
  -- the one capital that becomes two characters, the first of them a letter
  next => exact absurd (h 'i' List.mem_cons_self) (by decide)
  next hdotted =>
    rw [if_neg hdotted]
    cases hmoved : lowerRuns.findSome? (·.moved? c.toNat) with
    | none => rfl
    | some m =>
      rw [hmoved] at h
      exact absurd (h _ List.mem_cons_self) (by simp [not_isDigit_of_moved hmoved])

/-- **Only digits turn into digits in lower case**, and they stay what they are. -/
theorem lowerFrom_of_digits {before cs : List Char}
    (h : ∀ c ∈ lowerFrom before cs, isDigit c = true) : lowerFrom before cs = cs := by
  induction cs generalizing before with
  | nil => rfl
  | cons c cs ih =>
    rw [lowerFrom] at h ⊢
    rw [List.forall_mem_append] at h
    rw [ih h.2]
    change _ = [c] ++ cs
    refine congrArg (· ++ cs) ?_
    replace h := h.1
    split at h
    next hbasic =>
      rw [if_pos hbasic, toLower_eq_of_isDigit hbasic (h _ (List.mem_singleton_self _))]
    next hbasic =>
      rw [if_neg hbasic]
      split at h
      next =>
        -- a sigma turns into one of two letters, by what stands around it
        have hsigma : ∀ b : Bool, isDigit (Char.ofNat (if b then 962 else 963)) = false := by decide
        exact absurd ((hsigma _).symm.trans (h _ (List.mem_singleton_self _))) Bool.false_ne_true
      next hsigma => rw [if_neg hsigma, lowerWide_of_digits h]

end ContainerLint.Text
