/-
Words in single quotes.

Between single quotes every character stands for itself but the quote, which is written by
closing the quotes, putting it in double quotes and opening them again. The scanner finds the
words of such a text again, whatever they hold. What it gives does not say which of them were
quoted, though, and the words are then held against the control operators. So a script of
quoted words is one command exactly if no word is an operator; a word that is one ends the
command, and if it is a pipe the script has pipes.
-/
import ContainerLint.Proofs.Shell.Lines

namespace ContainerLint.Shell

open ContainerLint.Text

/-! ## Writing -/

/-- A word in single quotes. -/
def singleQuoted (word : List Char) : List Char :=
  '\'' :: word.flatMap (fun c => if c = '\'' then "'\"'\"'".toList else [c]) ++ ['\'']

/-- Words in single quotes, with spaces between them. -/
def writeQuoted (ws : List String) : String :=
  String.ofList (join [' '] (ws.map fun word => singleQuoted word.toList))

/-! ## Scanning -/

section Scan

variable {isOperator : Char → Bool}

theorem scanWords_quotes_close (mark : Char) (acc : List Char) (q : Bool) (rest : List Char) :
    scanWords isOperator (.quotes mark) acc q (mark :: rest) =
      scanWords isOperator .word acc true rest := by
  rw [scanWords, if_pos (beq_self_eq_true mark)]

/-- Between quotes a character is kept, unless it closes or escapes. -/
theorem scanWords_quotes_cons {mark c : Char} (hmark : c ≠ mark) (hescape : c ≠ '\\' ∨ mark ≠ '"')
    (acc : List Char) (q : Bool) (rest : List Char) :
    scanWords isOperator (.quotes mark) acc q (c :: rest) =
      scanWords isOperator (.quotes mark) (c :: acc) true rest := by
  have hplain : ¬ (c == '\\' && mark == '"') = true := by
    rw [Bool.and_eq_true, beq_iff_eq, beq_iff_eq]
    exact not_and_or.mpr hescape
  rw [scanWords, if_neg (Bool.eq_false_iff.mp (beq_false_of_ne hmark)), if_neg hplain]

theorem scanWords_word_quote {c : Char} (hseparator : isSeparator c = false)
    (hquote : isQuote c = true) (acc : List Char) (q : Bool) (rest : List Char) :
    scanWords isOperator .word acc q (c :: rest) =
      scanWords isOperator (.quotes c) acc q rest := by
  rw [scanWords, if_neg (Bool.eq_false_iff.mp hseparator), if_pos hquote]

/-- What stands in single quotes goes into the word as it was before it was written. -/
theorem scanWords_singleQuotes (cs acc : List Char) (q : Bool) (rest : List Char) :
    scanWords isOperator (.quotes '\'') acc q
        (cs.flatMap (fun c => if c = '\'' then "'\"'\"'".toList else [c]) ++ '\'' :: rest) =
      scanWords isOperator .word (cs.reverse ++ acc) true rest := by
  induction cs generalizing acc q with
  | nil => exact scanWords_quotes_close '\'' acc q rest
  | cons c cs ih =>
    rw [List.flatMap_cons, List.append_assoc, List.reverse_cons, List.append_assoc,
      List.singleton_append, ← ih (c :: acc) true]
    by_cases hc : c = '\''
    · -- out of the quotes, into double quotes and out of them, and into the quotes again
      rw [hc, if_pos rfl, show "'\"'\"'".toList = ['\'', '"', '\'', '"', '\''] from rfl]
      simp only [List.cons_append, List.nil_append]
      rw [scanWords_quotes_close, scanWords_word_quote (by decide) (by decide),
        scanWords_quotes_cons (by decide) (by decide), scanWords_quotes_close,
        scanWords_word_quote (by decide) (by decide)]
    · rw [if_neg hc, List.singleton_append, scanWords_quotes_cons hc (.inr (by decide))]

/-- A word between single quotes is scanned as itself. -/
theorem scanWords_singleQuoted (hoperator : isOperator '\'' = false) (word rest : List Char) :
    scanWords isOperator .between [] false (singleQuoted word ++ rest) =
      scanWords isOperator .word word.reverse true rest := by
  have hopen : openWord isOperator '\'' = (.quotes '\'', []) := by
    simp [openWord, hoperator, isQuote]
  rw [singleQuoted, List.append_assoc, List.cons_append, List.singleton_append, scanWords,
    if_neg (by decide), hopen]
  dsimp only
  rw [scanWords_singleQuotes, List.append_nil]

end Scan

theorem newline_not_mem_singleQuoted {word : List Char} (h : '\n' ∉ word) :
    '\n' ∉ singleQuoted word := by
  intro hmem
  rw [singleQuoted, List.cons_append, List.mem_cons, List.mem_append, List.mem_flatMap] at hmem
  rcases hmem with hc | ⟨c, hc, hin⟩ | hc
  · exact absurd hc (by decide)
  · split at hin
    · exact absurd hin (by decide)
    · exact h (List.mem_singleton.mp hin ▸ hc)
  · exact absurd hc (by decide)

/-- Quoting adds no lines. -/
theorem newline_not_mem_writeQuoted {ws : List String} (h : ∀ word ∈ ws, '\n' ∉ word.toList) :
    '\n' ∉ (writeQuoted ws).toList := by
  intro hmem
  rw [writeQuoted, String.toList_ofList] at hmem
  rcases mem_join hmem with hspace | ⟨text, htext, hin⟩
  · exact absurd hspace (by decide)
  · obtain ⟨word, hword, rfl⟩ := List.mem_map.mp htext
    exact newline_not_mem_singleQuoted (h word hword) hin

/-- **The words of quoted words are these words.** -/
theorem tokens_writeQuoted {ws : List String} (hlines : ∀ word ∈ ws, '\n' ∉ word.toList) :
    tokens (writeQuoted ws) = ws := by
  have hnewline := newline_not_mem_writeQuoted hlines
  have hline : onOneLine (writeQuoted ws).toList = (writeQuoted ws).toList := by
    have hescaped : ¬ ['\\', '\n'] <:+: (writeQuoted ws).toList :=
      fun h => hnewline (h.subset (by simp))
    have hsingle : ¬ ['\n'] <:+: (writeQuoted ws).toList :=
      fun h => hnewline (h.subset (by simp))
    rw [onOneLine, replaceAll_eq_self hescaped, replaceAll_eq_self hsingle]
  have hscan : scanWords isOperatorChar .between [] false (onOneLine (writeQuoted ws).toList) =
      .ok (ws.map String.toList) := by
    rw [hline, writeQuoted, String.toList_ofList]
    refine scanWords_join (by decide) ?_
    rw [List.forall₂_map_left_iff, List.forall₂_map_right_iff, List.forall₂_same]
    exact fun word _ rest => scanWords_singleQuoted (by decide) word.toList rest
  rw [tokens_eq_of_scanWords hscan, List.map_map]
  exact List.map_id'' (fun _ => String.ofList_toList) ws

/-! ## Commands -/

namespace Command

theorem dropAssignments_suffix (ws : List String) : dropAssignments ws <:+ ws := by
  fun_induction dropAssignments ws with
  | case1 word next rest hword ih => exact ih.trans (List.suffix_cons word (next :: rest))
  | case2 => exact List.suffix_refl _
  | case3 => exact List.suffix_refl _

/-- A word without an equals sign is no assignment. -/
theorem dropAssignments_cons {name : String} (h : '=' ∉ name.toList) (arguments : List String) :
    dropAssignments (name :: arguments) = name :: arguments := by
  cases arguments with
  | nil => rfl
  | cons next rest =>
    have hname : isAssignment name = false := by
      rw [isAssignment, Bool.and_eq_false_iff]
      exact .inl (Bool.eq_false_iff.mpr fun hin => h (List.contains_iff_mem.mp hin))
    rw [dropAssignments, hname, if_neg Bool.false_ne_true]

/-- The name and the arguments of a command are among its words. -/
theorem mem_of_ofWords? {ws : List String} {c : Command} (h : ofWords? ws = some c) :
    ∀ word ∈ c.name :: c.arguments, word ∈ ws := by
  intro word hword
  rw [ofWords?] at h
  split at h
  · cases h
  · rename_i name arguments hdrop
    cases h
    exact (dropAssignments_suffix ws).subset (hdrop ▸ hword)

end Command

namespace Script

/-- **Quoted words make one command exactly if none of them is an operator.** To be quoted
does not keep an operator from ending a command, or a pipe from being one. -/
theorem ofText_writeQuoted {name : String} {arguments : List String}
    (hlines : ∀ word ∈ name :: arguments, '\n' ∉ word.toList) (hequals : '=' ∉ name.toList) :
    (ofText (writeQuoted (name :: arguments))).commands =
        (splitBy isControl (name :: arguments)).filterMap Command.ofWords? ∧
      ((ofText (writeQuoted (name :: arguments))).hasPipes = true ↔
        "|" ∈ name :: arguments ∨ "|&" ∈ name :: arguments) ∧
      ((∃ flags, (ofText (writeQuoted (name :: arguments))).commands = [⟨name, arguments, flags⟩]) ∧
          (ofText (writeQuoted (name :: arguments))).hasPipes = false ↔
        ∀ word ∈ name :: arguments, isControl word = false) := by
  -- the tokens are the words; those that look like operators still cut the commands
  have htokens := tokens_writeQuoted hlines
  have hcommands : (ofText (writeQuoted (name :: arguments))).commands =
      (splitBy isControl (name :: arguments)).filterMap Command.ofWords? := by
    rw [ofText, htokens]
  have hpipes : (ofText (writeQuoted (name :: arguments))).hasPipes = true ↔
      "|" ∈ name :: arguments ∨ "|&" ∈ name :: arguments := by
    rw [hasPipes_iff, htokens]
  refine ⟨hcommands, hpipes, ?_, fun hplain => ⟨?_, ?_⟩⟩
  · rintro ⟨⟨flags, hone⟩, -⟩ word hword
    have hmem : (⟨name, arguments, flags⟩ : Command) ∈
        (splitBy isControl (name :: arguments)).filterMap Command.ofWords? := by
      rw [← hcommands, hone]
      exact List.mem_singleton_self _
    obtain ⟨piece, hpiece, hcommand⟩ := List.mem_filterMap.mp hmem
    exact (mem_of_mem_splitBy hpiece (Command.mem_of_ofWords? hcommand word hword)).2
  · have hwhole : Command.ofWords? (name :: arguments) =
        some ⟨name, arguments, arguments.filter Command.isFlag⟩ := by
      rw [Command.ofWords?, Command.dropAssignments_cons hequals]
    refine ⟨arguments.filter Command.isFlag, ?_⟩
    rw [hcommands, splitBy_eq_splitOnP, List.splitOnP_eq_singleton hplain,
      List.filterMap_cons_some hwhole, List.filterMap_nil]
  · rw [Bool.eq_false_iff, ne_eq, hpipes]
    rintro (hpipe | hpipe)
    · exact absurd (hplain _ hpipe) (by decide)
    · exact absurd (hplain _ hpipe) (by decide)

theorem ofText_writeQuoted_of_lookalikes :
    let arguments := ["a;b", "x && y", "|&|", "it's", "", "\"\\", "-v=|"]
    (∀ word ∈ "echo" :: arguments, '\n' ∉ word.toList) ∧ '=' ∉ "echo".toList ∧
      writeQuoted ("echo" :: arguments) =
        "'echo' 'a;b' 'x && y' '|&|' 'it'\"'\"'s' '' '\"\\' '-v=|'" ∧
      (∃ flags, (ofText (writeQuoted ("echo" :: arguments))).commands =
        [⟨"echo", arguments, flags⟩]) ∧
      (ofText (writeQuoted ("echo" :: arguments))).hasPipes = false := by
  intro arguments
  have hlines : ∀ word ∈ "echo" :: arguments, '\n' ∉ word.toList := by decide +kernel
  have hequals : '=' ∉ "echo".toList := by decide +kernel
  obtain ⟨-, -, hplain⟩ := ofText_writeQuoted hlines hequals
  exact ⟨hlines, hequals, by decide +kernel, hplain.mpr (by decide +kernel)⟩

/-- A quoted semicolon ends the command that it should be an argument of. -/
theorem ofText_writeQuoted_semicolon :
    (∀ word ∈ ["echo", ";", "x"], '\n' ∉ word.toList) ∧ '=' ∉ "echo".toList ∧
      writeQuoted ["echo", ";", "x"] = "'echo' ';' 'x'" ∧
      (ofText "'echo' ';' 'x'").commands = [⟨"echo", [], []⟩, ⟨"x", [], []⟩] := by
  decide +kernel

end Script

end ContainerLint.Shell
