/-
Which texts are numbers, and which numbers have a text.

A run of digits can look like a number and be none, for two reasons only: one of its
digits has no place value, or there are too many of them. Whatever else stands around a
numeral, blanks or a sign, can only spoil it. In the other direction a number has a text
unless it is too great, and what was read from a text is never too great to be written.
-/
import ContainerLint.Text.Digit
import Mathlib.Algebra.Group.Nat.Defs
import Mathlib.Data.List.Induction
import Mathlib.Data.List.TakeWhile

namespace ContainerLint.Text

/-! ## Writing -/

/-- The number has few enough digits to be written. -/
def IsWritable (n : Int) : Prop :=
  n.natAbs < 10 ^ maxDigits

/-- A number can be written if it is not too long. -/
theorem exists_writeInt_iff (n : Int) : (∃ s, writeInt n = .ok s) ↔ IsWritable n := by
  have hlength : (Nat.toDigits 10 n.natAbs).length ≤ maxDigits ↔ IsWritable n :=
    Nat.length_toDigits_le_iff (by decide) (by decide)
  unfold writeInt
  by_cases hlong : maxDigits < (Nat.toDigits 10 n.natAbs).length
  · rw [if_pos hlong, ← hlength]
    exact iff_of_false (fun ⟨_, h⟩ => nomatch h) (by omega)
  · rw [if_neg hlong, ← hlength]
    exact iff_of_true ⟨_, rfl⟩ (by omega)

theorem writeInt_eq_error {n : Int} (h : ¬ IsWritable n) : writeInt n = .error .unwritable := by
  rw [← exists_writeInt_iff] at h
  unfold writeInt at h ⊢
  split
  · rfl
  · rename_i hshort
    rw [if_neg hshort] at h
    exact absurd ⟨_, rfl⟩ h

/-! ## Reading -/

/-- A run of decimal digits that is a number. -/
structure IsDecimalRun (cs : List Char) : Prop where
  ne_nil : cs ≠ []
  length_le : cs.length ≤ maxDigits
  decimal : ∀ c ∈ cs, isDecimal c = true

/-- A text that is a number: a run of decimal digits, after a sign or none, with blanks
around it or none. -/
def IsNumeral (s : String) : Prop :=
  IsDecimalRun (cutSign (dropEnds isPadding s.toList)).2

theorem decimalValue?_lt {c : Char} {d : Nat} (h : decimalValue? c = some d) : d < 10 := by
  obtain ⟨r, -, rfl⟩ := Option.map_eq_some_iff.mp h
  exact Nat.mod_lt _ (by decide)

/-- In base ten, letters have no value. -/
theorem digitValue?_ten (c : Char) : digitValue? 10 c = decimalValue? c := by
  unfold digitValue?
  cases hc : decimalValue? c with
  | some d => exact Option.filter_eq_some_iff.mpr ⟨rfl, decide_eq_true (decimalValue?_lt hc)⟩
  | none =>
    dsimp only
    split
    next hsmall =>
      obtain ⟨hlo, -⟩ := Bool.and_eq_true_iff.mp hsmall
      have hlo : 97 ≤ c.toNat := of_decide_eq_true hlo
      simp only [Option.filter_some, decide_eq_true_eq]
      rw [if_neg (by omega)]
    next =>
      split
      next hlarge =>
        obtain ⟨hlo, -⟩ := Bool.and_eq_true_iff.mp hlarge
        have hlo : 65 ≤ c.toNat := of_decide_eq_true hlo
        simp only [Option.filter_some, decide_eq_true_eq]
        rw [if_neg (by omega)]
      next => rfl

theorem cutBase_ten (cs : List Char) : cutBase 10 cs = cs := by
  unfold cutBase
  split
  · rw [if_neg (by simp)]
  · rfl

/-- The digits at the front are all that there is, and they are a number. -/
theorem isDecimalRun_iff (cs : List Char) :
    IsDecimalRun cs ↔ (cs.takeWhile isDecimal).length ≤ maxDigits ∧
      cs.takeWhile isDecimal ≠ [] ∧ cs.length ≤ (cs.takeWhile isDecimal).length := by
  constructor
  · rintro ⟨hne, hlength, hdecimal⟩
    have hall : cs.takeWhile isDecimal = cs := List.takeWhile_eq_self_iff.mpr hdecimal
    rw [hall]
    exact ⟨hlength, hne, le_rfl⟩
  · rintro ⟨hlength, hne, hle⟩
    have hall : cs.takeWhile isDecimal = cs :=
      (List.takeWhile_sublist isDecimal).eq_of_length_le hle
    rw [hall] at hlength hne
    exact ⟨hne, hlength, List.takeWhile_eq_self_iff.mp hall⟩

/-- Each character has a place value exactly if each is a decimal digit. -/
theorem mapM_decimalValue? (cs : List Char) :
    cs.mapM decimalValue? =
      if cs.all isDecimal then some (cs.filterMap decimalValue?) else none := by
  induction cs with
  | nil => rfl
  | cons c cs ih =>
    rw [List.mapM_cons, ih, List.all_cons, List.filterMap_cons]
    unfold isDecimal
    cases decimalValue? c with
    | none => rfl
    | some d =>
      by_cases hcs : cs.all (fun c => (decimalValue? c).isSome) = true
      · simp [hcs]
      · simp [hcs]

/-- Digits can be read if they are decimals and not too many. -/
theorem exists_readDecimal_iff (cs : List Char) :
    (∃ n, readDecimal cs = .ok n) ↔ IsDecimalRun cs := by
  rw [isDecimalRun_iff]
  unfold readDecimal
  dsimp only
  by_cases hlong : maxDigits < (cs.takeWhile isDecimal).length
  · rw [if_pos hlong]
    exact iff_of_false (fun ⟨_, h⟩ => nomatch h) (fun h => by omega)
  · rw [if_neg hlong, mapM_decimalValue?]
    by_cases hall : cs.all isDecimal = true
    · have hself : cs.takeWhile isDecimal = cs :=
        List.takeWhile_eq_self_iff.mpr (List.all_eq_true.mp hall)
      rw [if_pos hall, hself]
      cases cs with
      | nil => exact iff_of_false (fun ⟨_, h⟩ => nomatch h) (fun h => h.2.1 rfl)
      | cons c cs =>
        have hc := List.all_eq_true.mp hall c List.mem_cons_self
        obtain ⟨d, hd⟩ := Option.isSome_iff_exists.mp hc
        rw [List.filterMap_cons_some hd]
        exact iff_of_true ⟨_, rfl⟩ ⟨by rw [← hself]; omega, List.cons_ne_nil c cs, le_rfl⟩
    -- a character without a place value stands somewhere, so the digits end before it
    · rw [if_neg hall]
      refine iff_of_false (fun ⟨_, h⟩ => nomatch h) (fun h => hall ?_)
      have hself : cs.takeWhile isDecimal = cs :=
        (List.takeWhile_sublist isDecimal).eq_of_length_le h.2.2
      exact List.all_eq_true.mpr (List.takeWhile_eq_self_iff.mp hself)

/-- The digits that are read are those at the front, as numbers. -/
theorem takeWhile_digitValue?_ten (cs : List Char) :
    (cs.map (digitValue? 10)).takeWhile Option.isSome =
      (cs.takeWhile isDecimal).map decimalValue? := by
  have hfun : digitValue? 10 = decimalValue? := funext digitValue?_ten
  rw [hfun, List.takeWhile_map]
  rfl

/-- The number that a numeral is. -/
theorem readNumeral_of_isNumeral {s : String} (h : IsNumeral s) :
    let (negative, body) := cutSign (dropEnds isPadding s.toList)
    let n : Int := ofDigits 10 (body.filterMap decimalValue?)
    readNumeral 10 s = .ok (if negative then -n else n) := by
  unfold IsNumeral at h
  unfold readNumeral
  generalize cutSign (dropEnds isPadding s.toList) = parts at h ⊢
  obtain ⟨negative, body⟩ := parts
  have hself : body.takeWhile isDecimal = body := List.takeWhile_eq_self_iff.mpr h.decimal
  have hlength := h.length_le
  dsimp only at h hlength ⊢
  rw [cutBase_ten, takeWhile_digitValue?_ten, hself, List.length_map, List.isEmpty_map,
    if_neg (by simpa using hlength), if_neg (by simpa using h.ne_nil), List.filterMap_map]
  rfl

/-- Nothing but a numeral can be read as one. -/
theorem exists_readNumeral_iff (s : String) : (∃ n, readNumeral 10 s = .ok n) ↔ IsNumeral s := by
  refine ⟨fun ⟨n, h⟩ => ?_, fun h => ⟨_, readNumeral_of_isNumeral h⟩⟩
  unfold readNumeral at h
  dsimp only at h
  rw [cutBase_ten, takeWhile_digitValue?_ten, List.length_map, List.isEmpty_map] at h
  rw [IsNumeral, isDecimalRun_iff]
  split at h
  · cases h
  next hlong =>
    split at h
    · cases h
    next hbad =>
      rw [Bool.or_eq_true, not_or, List.isEmpty_iff] at hbad
      refine ⟨?_, hbad.1, ?_⟩
      · simpa using hlong
      · simpa using hbad.2

/-! ## Reading and writing -/

/-- Digits are read as the number they write. -/
theorem eq_ofDigits_of_readDecimal {cs : List Char} {n : Nat} (h : readDecimal cs = .ok n) :
    n = ofDigits 10 (cs.filterMap decimalValue?) := by
  unfold readDecimal at h
  dsimp only at h
  rw [mapM_decimalValue?] at h
  split at h
  · cases h
  · by_cases hall : cs.all isDecimal = true
    · rw [if_pos hall] at h
      dsimp only at h
      split at h
      · cases h
      · exact (Except.ok.inj h).symm
    · rw [if_neg hall] at h
      cases h

theorem decimalValue?_digitChar : ∀ d < 10, decimalValue? (Nat.digitChar d) = some d := by
  decide

theorem ofDigits_concat (base : Nat) (digits : List Nat) (d : Nat) :
    ofDigits base (digits ++ [d]) = ofDigits base digits * base + d := by
  rw [ofDigits, List.foldl_append]
  rfl

/-- The digits of a number have place values, and these make up the number. -/
theorem digits_toDigits (n : Nat) :
    (∀ c ∈ Nat.toDigits 10 n, isDecimal c = true) ∧
      ofDigits 10 ((Nat.toDigits 10 n).filterMap decimalValue?) = n := by
  induction n using Nat.strongRecOn with
  | ind n ih =>
    rcases Nat.lt_or_ge n 10 with hn | hn
    · have hvalue := decimalValue?_digitChar n hn
      rw [Nat.toDigits_of_lt_base hn, List.filterMap_cons_some hvalue]
      refine ⟨fun c hc => ?_, by simp [ofDigits]⟩
      rw [List.mem_singleton.mp hc, isDecimal, hvalue]
      rfl
    · obtain ⟨hdecimal, hvalues⟩ := ih (n / 10) (by omega)
      have hvalue := decimalValue?_digitChar (n % 10) (by omega)
      rw [Nat.toDigits_of_base_le (by decide) hn, List.filterMap_append,
        List.filterMap_cons_some hvalue, List.filterMap_nil, ofDigits_concat, hvalues]
      refine ⟨fun c hc => ?_, by omega⟩
      rcases List.mem_append.mp hc with hc | hc
      · exact hdecimal c hc
      · rw [List.mem_singleton.mp hc, isDecimal, hvalue]
        rfl

/-- **What is read from the text of a number is the number.** -/
theorem eq_of_readDecimal_toString {n m : Nat} (h : readDecimal (toString n).toList = .ok m) :
    m = n := by
  rw [Nat.toString_eq_ofList_toDigits, String.toList_ofList] at h
  rw [eq_ofDigits_of_readDecimal h, (digits_toDigits n).2]

/-- A number is below the power of its base that its digits count. -/
theorem ofDigits_lt {base : Nat} {digits : List Nat} (hdigits : ∀ d ∈ digits, d < base) :
    ofDigits base digits < base ^ digits.length := by
  induction digits using List.reverseRecOn with
  | nil => exact Nat.one_pos
  | append_singleton digits d ih =>
    have hd : d < base := hdigits d (by simp)
    have hdigits : ofDigits base digits < base ^ digits.length :=
      ih fun e he => hdigits e (by simp [he])
    rw [ofDigits_concat, List.length_append, List.length_singleton, Nat.pow_succ]
    -- one less than the power leaves room for one more digit, which is below the base
    have hmul : (ofDigits base digits + 1) * base ≤ base ^ digits.length * base :=
      Nat.mul_le_mul_right base hdigits
    rw [Nat.add_mul] at hmul
    omega

/-- **What was read can be written.** -/
theorem isWritable_of_readNumeral {s : String} {n : Int} (h : readNumeral 10 s = .ok n) :
    IsWritable n := by
  have hnumeral : IsNumeral s := (exists_readNumeral_iff s).mp ⟨n, h⟩
  have hvalue := readNumeral_of_isNumeral hnumeral
  rw [h] at hvalue
  unfold IsNumeral at hnumeral
  generalize cutSign (dropEnds isPadding s.toList) = parts at hnumeral hvalue
  obtain ⟨negative, body⟩ := parts
  have hbelow : ofDigits 10 (body.filterMap decimalValue?) <
      10 ^ (body.filterMap decimalValue?).length := by
    refine ofDigits_lt fun d hd => ?_
    obtain ⟨c, -, hc⟩ := List.mem_filterMap.mp hd
    exact decimalValue?_lt hc
  -- a sign does not count, so the digits alone bound the number
  have hlength : (body.filterMap decimalValue?).length ≤ maxDigits :=
    (List.length_filterMap_le _ _).trans hnumeral.length_le
  have habs : n.natAbs = ofDigits 10 (body.filterMap decimalValue?) := by
    rw [Except.ok.inj hvalue]
    split <;> simp
  rw [IsWritable, habs]
  exact hbelow.trans_le (Nat.pow_le_pow_right (by decide) hlength)

end ContainerLint.Text
