/-
What the word scanner does with plain and with quoted text.

Outside of quotes, a character that is no separator, quote, backslash or operator stands
for itself. Inside of double quotes all characters do but the quote and the backslash,
which stand for themselves behind a backslash. So a text may be written into a word as it
is, or quoted with some backslashes added, and the scanner gets through either with the
text added to the word that it has. A word that is begun in any way is among the words in
the end. A separator outside of quotes ends whatever stands before it, so that a text that
can be scanned has its words wherever it stands at the front of a longer one.
-/
import ContainerLint.Proofs.Text.Lines
import ContainerLint.Shell.Words
import Mathlib.Data.List.Forall2

namespace ContainerLint.Shell

/-- A character that stands for itself outside of quotes, unless it is an operator. -/
def IsOrdinary (c : Char) : Prop :=
  isSeparator c = false ∧ isQuote c = false ∧ c ≠ '\\'

theorem isBlank_of_isSeparator {c : Char} (h : isSeparator c = true) : Text.isBlank c = true := by
  simp only [isSeparator, Bool.or_eq_true, beq_iff_eq] at h
  rcases h with ((rfl | rfl) | rfl) | rfl
  all_goals decide

/-- A text as it is written inside of double quotes. -/
def escape (cs : List Char) : List Char :=
  cs.flatMap fun c => if c = '"' ∨ c = '\\' then ['\\', c] else [c]

theorem escape_cons (c : Char) (cs : List Char) :
    escape (c :: cs) = (if c = '"' ∨ c = '\\' then ['\\', c] else [c]) ++ escape cs :=
  List.flatMap_cons

/-- Escaping adds backslashes only. -/
theorem mem_escape {c : Char} {cs : List Char} (h : c ∈ escape cs) : c = '\\' ∨ c ∈ cs := by
  obtain ⟨d, hd, hc⟩ := List.mem_flatMap.mp h
  split at hc
  · rcases List.mem_cons.mp hc with hslash | hc
    · exact .inl hslash
    · exact .inr (List.mem_singleton.mp hc ▸ hd)
  · exact .inr (List.mem_singleton.mp hc ▸ hd)

variable {isOperator : Char → Bool}

/-- A word goes on with the characters that stand for themselves. -/
theorem scanWords_ordinary {cs : List Char} (hcs : ∀ c ∈ cs, IsOrdinary c)
    (hoperator : ∀ c ∈ cs, isOperator c = false) (acc : List Char) (q : Bool) (rest : List Char) :
    scanWords isOperator .word acc q (cs ++ rest) =
      scanWords isOperator .word (cs.reverse ++ acc) q rest := by
  induction cs generalizing acc with
  | nil => rfl
  | cons c cs ih =>
    rw [List.forall_mem_cons] at hcs hoperator
    obtain ⟨hseparator, hquote, hslash⟩ := hcs.1
    have hstep : scanWords isOperator .word acc q (c :: (cs ++ rest)) =
        scanWords isOperator .word (c :: acc) q (cs ++ rest) := by
      simp [scanWords, hseparator, hquote, hslash, hoperator.1]
    rw [List.cons_append, hstep, ih hcs.2 hoperator.2, List.reverse_cons, List.append_assoc,
      List.singleton_append]

/-- A word starts with a character that stands for itself. -/
theorem scanWords_between_ordinary {c : Char} (hc : IsOrdinary c) (hoperator : isOperator c = false)
    (acc : List Char) (q : Bool) (rest : List Char) :
    scanWords isOperator .between acc q (c :: rest) =
      scanWords isOperator .word [c] false rest := by
  obtain ⟨hseparator, hquote, hslash⟩ := hc
  simp [scanWords, openWord, hseparator, hquote, hslash, hoperator]

/-- **Quoted text goes into the word as it was before it was written.** -/
theorem scanWords_escape (cs acc : List Char) (q : Bool) (rest : List Char) :
    scanWords isOperator (.quotes '"') acc q (escape cs ++ '"' :: rest) =
      scanWords isOperator .word (cs.reverse ++ acc) true rest := by
  induction cs generalizing acc q with
  | nil => simp [escape, scanWords]
  | cons c cs ih =>
    have hstep : scanWords isOperator (.quotes '"') acc q (escape (c :: cs) ++ '"' :: rest) =
        scanWords isOperator (.quotes '"') (c :: acc) true (escape cs ++ '"' :: rest) := by
      rw [escape_cons]
      by_cases hc : c = '"' ∨ c = '\\'
      · rw [if_pos hc]
        rcases hc with rfl | rfl <;> simp [scanWords]
      · rw [if_neg hc]
        obtain ⟨hquote, hslash⟩ := not_or.mp hc
        simp [scanWords, hquote, hslash]
    rw [hstep, ih, List.reverse_cons, List.append_assoc, List.singleton_append]

/-! ## Texts one after the other -/

/-- A word goes in front of the words that follow it, and of those that follow them. -/
theorem map_append_of_map_eq_ok {word ws : List (List Char)}
    {x y z : Except WordsError (List (List Char))} (hx : x.map (word ++ ·) = .ok ws)
    (hy : ∀ more, x = .ok more → y = z.map (more ++ ·)) :
    y.map (word ++ ·) = z.map (ws ++ ·) := by
  cases x with
  | error e => cases hx
  | ok more =>
    cases hx
    rw [hy more rfl]
    cases z with
    | error e => rfl
    | ok others => exact congrArg Except.ok (List.append_assoc word more others).symm

/-- **A separator ends what stands before it**: the words of the text in front of it are
those that it has alone, and behind it the scanner starts anew. -/
theorem scanWords_append_separator {mode : Mode} {acc : List Char} {q : Bool} {cs : List Char}
    {ws : List (List Char)} {c : Char} (hc : isSeparator c = true)
    (hoperator : isOperator c = false) (h : scanWords isOperator mode acc q cs = .ok ws)
    (rest : List Char) :
    scanWords isOperator mode acc q (cs ++ c :: rest) =
      (scanWords isOperator .between [] false rest).map (ws ++ ·) := by
  fun_induction scanWords isOperator mode acc q cs generalizing ws with
  | case1 | case2 | case3 => cases h
  -- the text in front has ended, and the separator ends its last word
  | case4 =>
    cases h
    rw [List.nil_append, scanWords, if_pos hc]
    cases scanWords isOperator .between [] false rest <;> rfl
  | case5 =>
    cases h
    rw [List.nil_append, scanWords, if_pos hc]
  | case6 =>
    cases h
    rw [List.nil_append, scanWords, if_neg (Bool.eq_false_iff.mp hoperator), if_pos hc]
  -- the word ends inside of the text in front, and others follow it
  | case9 | case12 | case15 | case16 =>
    rename_i ih
    simp only [List.cons_append, scanWords, *, if_true, if_false, Bool.false_eq_true]
    exact map_append_of_map_eq_ok h fun more hx => ih hx
  | _ =>
    rename_i ih
    simp only [List.cons_append, scanWords, *, if_true, if_false, Bool.false_eq_true]
    exact ih h

/-- Texts that the scanner gets through with one quoted word each make up these words, if
spaces stand between them. -/
theorem scanWords_join (hoperator : isOperator ' ' = false) {texts words : List (List Char)}
    (h : List.Forall₂ (fun text word => ∀ rest,
      scanWords isOperator .between [] false (text ++ rest) =
        scanWords isOperator .word word.reverse true rest) texts words) :
    scanWords isOperator .between [] false (Text.join [' '] texts) = .ok words := by
  induction h with
  | nil => rfl
  | @cons text word texts words htext hrest ih =>
    have hcollected : collected word.reverse true = [word] := by simp [collected]
    have hword : scanWords isOperator .between [] false text = .ok [word] := by
      have hend := htext []
      rw [List.append_nil] at hend
      rw [hend, scanWords, hcollected]
    by_cases hlast : texts = []
    · subst hlast
      cases hrest
      exact hword
    · rw [Text.join_cons_of_ne_nil [' '] text hlast, List.append_assoc, List.singleton_append,
        scanWords_append_separator (by decide) hoperator hword, ih]
      rfl

/-! ## Words that are begun -/

/-- The scanner has begun a word, which counts even if the text ends here. -/
def HasBegun : Mode → List Char → Bool → Prop
  | .between, _, _ => False
  | .word, acc, q => acc ≠ [] ∨ q = true
  | .operator, acc, _ => acc ≠ []
  | _, _, _ => True

/-- A word that has begun is collected, though it may be empty. -/
theorem collected_ne_nil {acc : List Char} {q : Bool} (h : acc ≠ [] ∨ q = true) :
    collected acc q ≠ [] := by
  rw [collected]
  split
  next hnone =>
    rw [Bool.and_eq_true, List.isEmpty_iff, Bool.not_eq_true'] at hnone
    rcases h with h | h
    · exact absurd hnone.1 h
    · rw [hnone.2] at h
      cases h
  next => exact List.cons_ne_nil _ _

theorem hasBegun_openWord (isOperator : Char → Bool) (c : Char) :
    HasBegun (openWord isOperator c).1 (openWord isOperator c).2 false := by
  by_cases hslash : c = '\\'
  · simp [openWord, HasBegun, hslash]
  by_cases hoperator : isOperator c = true
  · simp [openWord, HasBegun, hslash, hoperator]
  by_cases hquote : isQuote c = true <;> simp [openWord, HasBegun, hslash, hoperator, hquote]

/-- A word that is begun is among the words. -/
theorem scanWords_ne_nil {mode : Mode} {acc : List Char} {q : Bool} {cs : List Char}
    {ws : List (List Char)} (hbegun : HasBegun mode acc q)
    (h : scanWords isOperator mode acc q cs = .ok ws) : ws ≠ [] := by
  have hmore : ∀ {acc : List Char} {q : Bool} {x : Except WordsError (List (List Char))},
      (acc ≠ [] ∨ q = true) → x.map (collected acc q ++ ·) = .ok ws → ws ≠ [] := by
    intro acc q x hacc hx
    cases x with
    | error e => cases hx
    | ok more =>
      cases hx
      exact List.append_ne_nil_of_left_ne_nil (collected_ne_nil hacc) more
  fun_induction scanWords isOperator mode acc q cs with
  | case1 | case2 | case3 => cases h
  | case4 | case7 | case8 => exact hbegun.elim
  | case5 =>
    cases h
    exact collected_ne_nil hbegun
  | case6 =>
    cases h
    exact collected_ne_nil (.inl hbegun)
  -- the word ends, and others follow it
  | case9 | case12 => exact hmore hbegun h
  | case15 | case16 => exact hmore (.inl hbegun) h
  -- the word goes on
  | case10 | case11 | case18 | case19 | case21 | case22 =>
    rename_i ih
    exact ih trivial h
  | case13 | case20 =>
    rename_i ih
    exact ih (.inl (List.cons_ne_nil _ _)) h
  | case14 =>
    rename_i ih
    exact ih (List.cons_ne_nil _ _) h
  | case17 =>
    rename_i ih
    exact ih (.inr rfl) h

/-- A text that does not start with a separator has words. -/
theorem splitWords_ne_nil {c : Char} {cs : List Char} {ws : List (List Char)}
    (hc : isSeparator c = false) (h : splitWords (c :: cs) = .ok ws) : ws ≠ [] := by
  simp only [splitWords, scanWords, hc, Bool.false_eq_true, if_false] at h
  exact scanWords_ne_nil (hasBegun_openWord _ c) h

end ContainerLint.Shell
