/-
Scripts of several lines.

A line end in a script is written as a semicolon before the words are looked for, and an
escaped line end as a space. Both happen character by character, so a script that does not
end in a backslash can be put in front of another with a line end between them: on one line,
the two stand with a semicolon of its own between them. The scanner, which stands outside of
quotes where a script ends that it gets through, finds the words of the first, the semicolon
and the words of the second; and the semicolon ends the last command of the first. So the
commands of the whole are those of the two, one after the other, and what is asked of some
command of the whole is asked of some command of either.

The words are asked for in the scanner's own way. A script that the scanner does not get
through, since a quote is not closed or a backslash stands at the end, is split in a looser
way, where quotes count for nothing, and so would be all that is joined to it.
-/
import ContainerLint.Proofs.Shell.Words
import ContainerLint.Shell.Script

namespace ContainerLint.Text

/-! ## Replacing -/

/-- One character is replaced wherever it is. -/
theorem replaceAll_singleton (old : Char) (new cs : List Char) :
    replaceAll [old] new cs = cs.flatMap fun c => if c = old then new else [c] := by
  unfold replaceAll
  induction cs with
  | nil => rfl
  | cons c cs ih =>
    rw [replaceFrom, List.flatMap_cons, ← ih]
    by_cases hc : c = old
    · have hstarts : [old].isPrefixOf (c :: cs) = true := by
        rw [List.isPrefixOf_cons_cons, hc, beq_self_eq_true, List.isPrefixOf_nil_left,
          Bool.true_and]
      rw [if_pos hstarts, if_pos hc, List.length_singleton]
    · have hstarts : [old].isPrefixOf (c :: cs) = false := by
        rw [List.isPrefixOf_cons_cons, beq_false_of_ne (Ne.symm hc), Bool.false_and]
      rw [hstarts, if_neg Bool.false_ne_true, if_neg hc, List.singleton_append]

/-- A piece of two characters is not replaced across the end of a text that does not end
in the first of them. -/
theorem replaceFrom_pair_append {x y : Char} {new front : List Char}
    (hlast : front.getLast? ≠ some x) (back : List Char) {skip : Nat}
    (hskip : skip ≤ front.length) :
    replaceFrom [x, y] new skip (front ++ back) =
      replaceFrom [x, y] new skip front ++ replaceFrom [x, y] new 0 back := by
  -- by induction on the front, while a piece that was replaced still ends inside of it
  induction front generalizing skip with
  | nil =>
    obtain rfl : skip = 0 := Nat.le_zero.mp hskip
    rfl
  | cons c cs ih =>
    have hcs : cs.getLast? ≠ some x := by
      cases cs with
      | nil => simp
      | cons d ds => simpa [List.getLast?_cons_cons] using hlast
    cases skip with
    | succ skip => exact ih hcs (Nat.le_of_succ_le_succ hskip)
    | zero =>
      -- only at the last character could the piece reach into the back
      have hsame : [x, y].isPrefixOf (c :: (cs ++ back)) = [x, y].isPrefixOf (c :: cs) := by
        cases cs with
        | nil =>
          have hc : x ≠ c := by
            rintro rfl
            exact hlast rfl
          rw [List.isPrefixOf_cons_cons, List.isPrefixOf_cons_cons, beq_false_of_ne hc,
            Bool.false_and, Bool.false_and]
        | cons d ds => rfl
      rw [List.cons_append, replaceFrom, replaceFrom, hsame]
      by_cases hstarts : [x, y].isPrefixOf (c :: cs) = true
      · have hlength : 1 ≤ cs.length := by
          have := (List.isPrefixOf_iff_prefix.mp hstarts).length_le
          simpa using this
        rw [if_pos hstarts, if_pos hstarts, List.append_assoc]
        exact congrArg (new ++ ·) (ih hcs hlength)
      · rw [if_neg hstarts, if_neg hstarts, List.cons_append]
        exact congrArg (c :: ·) (ih hcs (Nat.zero_le _))

/-- Where a piece does not occur, there is nothing to replace. -/
theorem replaceAll_eq_self {old new cs : List Char} (h : ¬ old <:+: cs) :
    replaceAll old new cs = cs := by
  unfold replaceAll
  induction cs with
  | nil => rfl
  | cons c cs ih =>
    have hstarts : ¬ old.isPrefixOf (c :: cs) = true :=
      fun hold => h (List.isPrefixOf_iff_prefix.mp hold).isInfix
    rw [replaceFrom, if_neg hstarts, ih fun hold => h (List.infix_cons hold)]

end ContainerLint.Text

namespace ContainerLint.Shell

open ContainerLint.Text

/-! ## Lines -/

/-- A line end between two scripts is a semicolon between them. -/
theorem onOneLine_append_newline {first : List Char} (hlast : first.getLast? ≠ some '\\')
    (second : List Char) :
    onOneLine (first ++ '\n' :: second) =
      onOneLine first ++ ' ' :: ';' :: ' ' :: onOneLine second := by
  have hfirst : replaceAll ['\\', '\n'] [' '] (first ++ '\n' :: second) =
      replaceAll ['\\', '\n'] [' '] first ++ '\n' :: replaceAll ['\\', '\n'] [' '] second :=
    replaceFrom_pair_append hlast ('\n' :: second) (Nat.zero_le _)
  simp only [onOneLine, hfirst, replaceAll_singleton, List.flatMap_append, List.flatMap_cons,
    if_true, List.cons_append, List.nil_append]

/-! ## Words -/

/-- The scanner gets through the script: its quotes are closed, and no backslash is left
over at its end. -/
def IsBalanced (script : String) : Prop :=
  ∃ ws, scanWords isOperatorChar .between [] false (onOneLine script.toList) = .ok ws

instance (script : String) : Decidable (IsBalanced script) :=
  match h : scanWords isOperatorChar .between [] false (onOneLine script.toList) with
  | .ok ws => .isTrue ⟨ws, h⟩
  | .error _ => .isFalse fun ⟨_, hws⟩ => nomatch h.symm.trans hws

theorem tokens_eq_of_scanWords {script : String} {ws : List (List Char)}
    (h : scanWords isOperatorChar .between [] false (onOneLine script.toList) = .ok ws) :
    tokens script = ws.map String.ofList := by
  rw [tokens, h]

/-- **The words of two scripts with a line end between them** are those of the first, a
semicolon, and those of the second. -/
theorem tokens_append_newline {first second : String} (hfirst : IsBalanced first)
    (hsecond : IsBalanced second) (hlast : first.toList.getLast? ≠ some '\\') :
    tokens (first ++ "\n" ++ second) = tokens first ++ ";" :: tokens second := by
  obtain ⟨ws, hws⟩ := hfirst
  obtain ⟨vs, hvs⟩ := hsecond
  have hsemicolon : scanWords isOperatorChar .between [] false [';'] = .ok [[';']] := by decide
  have hwhole : (first ++ "\n" ++ second).toList = first.toList ++ '\n' :: second.toList := by
    simp
  have hscan : scanWords isOperatorChar .between [] false
      (onOneLine (first ++ "\n" ++ second).toList) = .ok (ws ++ [';'] :: vs) := by
    rw [hwhole, onOneLine_append_newline hlast,
      scanWords_append_separator (by decide) (by decide) hws, ← List.singleton_append (x := ';'),
      scanWords_append_separator (by decide) (by decide) hsemicolon, hvs]
    rfl
  rw [tokens_eq_of_scanWords hscan, tokens_eq_of_scanWords hws, tokens_eq_of_scanWords hvs,
    List.map_append, List.map_cons]

/-! ## Commands -/

namespace Script

/-- A script has pipes if it has one of the two tokens. -/
theorem hasPipes_iff {script : String} :
    (ofText script).hasPipes = true ↔ "|" ∈ tokens script ∨ "|&" ∈ tokens script := by
  rw [ofText, Bool.or_eq_true, List.contains_iff_mem, List.contains_iff_mem]

/-- **Scripts fall into their lines.** -/
theorem ofText_append_newline {first second : String} (hfirst : IsBalanced first)
    (hsecond : IsBalanced second) (hlast : first.toList.getLast? ≠ some '\\') :
    (ofText (first ++ "\n" ++ second)).commands =
        (ofText first).commands ++ (ofText second).commands ∧
      (ofText (first ++ "\n" ++ second)).hasPipes =
        ((ofText first).hasPipes || (ofText second).hasPipes) ∧
      (∀ program, (ofText (first ++ "\n" ++ second)).usesProgram program =
        ((ofText first).usesProgram program || (ofText second).usesProgram program)) ∧
      ∀ p, (ofText (first ++ "\n" ++ second)).anyCommand p =
        ((ofText first).anyCommand p || (ofText second).anyCommand p) := by
  have htokens := tokens_append_newline hfirst hsecond hlast
  have hcommands : (ofText (first ++ "\n" ++ second)).commands =
      (ofText first).commands ++ (ofText second).commands := by
    have hcontrol : isControl ";" = true := by decide
    simp only [ofText, htokens, splitBy_eq_splitOnP]
    rw [List.splitOnP_append_cons _ _ hcontrol, List.filterMap_append]
  refine ⟨hcommands, ?_, fun program => ?_, fun p => ?_⟩
  · rw [Bool.eq_iff_iff, Bool.or_eq_true, hasPipes_iff, hasPipes_iff, hasPipes_iff, htokens]
    simp only [List.mem_append, List.mem_cons, String.reduceEq, false_or]
    exact or_or_or_comm
  · rw [usesProgram, hcommands, List.any_append]
    rfl
  · rw [anyCommand, hcommands, List.any_append]
    rfl

theorem ofText_append_newline_piped :
    let first := "echo 'a | b' \\\n && test -f \"c\nd\" ||"
    let second := "\n\tcurl -s x |& 'sh'"
    IsBalanced first ∧ IsBalanced second ∧ first.toList.getLast? ≠ some '\\' ∧
      (ofText (first ++ "\n" ++ second)).commands =
        [⟨"echo", ["a | b"], []⟩, ⟨"test", ["-f", "c ; d"], ["-f"]⟩, ⟨"curl", ["-s", "x"], ["-s"]⟩,
          ⟨"sh", [], []⟩] ∧
      (ofText first).hasPipes = false ∧ (ofText (first ++ "\n" ++ second)).hasPipes = true := by
  intro first second
  have hfirst : IsBalanced first := by decide +kernel
  have hsecond : IsBalanced second := by decide +kernel
  have hlast : first.toList.getLast? ≠ some '\\' := by decide +kernel
  obtain ⟨hcommands, hpipes, -⟩ := ofText_append_newline hfirst hsecond hlast
  refine ⟨hfirst, hsecond, hlast, ?_, ?_, ?_⟩
  · rw [hcommands]
    decide +kernel
  · decide +kernel
  · rw [hpipes]
    decide +kernel

end Script

end ContainerLint.Shell
