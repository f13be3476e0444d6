/-
Pairs of keys and values, written and read back.

A key is written as it is and its value in double quotes, with a backslash before each
quote and each backslash of the value. Values may be any text on one line: blanks, equals
signs, quotes of either kind, what looks like a comment, a variable or a heredoc. The
reader finds the pairs again, in their order. It takes the text for pairs since its first
word has an equals sign, which is the one behind the first key; the word scanner gets
through each pair with one word; and each word is cut at its first equals sign, which is
the one behind the key again, since keys have none.
-/
import ContainerLint.Proofs.Dockerfile.SingleLine
import ContainerLint.Proofs.Shell.Words

namespace ContainerLint.Dockerfile

open ContainerLint.Text

/-- A character that a key may have: no blank, quote, backslash or equals sign. -/
def IsKeyChar (c : Char) : Prop :=
  isBlank c = false ∧ c ≠ '=' ∧ Shell.isQuote c = false ∧ c ≠ '\\'

instance (c : Char) : Decidable (IsKeyChar c) :=
  inferInstanceAs (Decidable (isBlank c = false ∧ c ≠ '=' ∧ Shell.isQuote c = false ∧ c ≠ '\\'))

/-- A text that may be a key. -/
def IsKey (key : String) : Prop :=
  key ≠ "" ∧ ∀ c ∈ key.toList, IsKeyChar c

instance (key : String) : Decidable (IsKey key) :=
  have : Decidable (∀ c ∈ key.toList, IsKeyChar c) := List.decidableBAll IsKeyChar key.toList
  inferInstanceAs (Decidable (key ≠ "" ∧ ∀ c ∈ key.toList, IsKeyChar c))

theorem IsKey.exists_cons {key : String} (h : IsKey key) :
    ∃ c cs, key.toList = c :: cs ∧ IsKeyChar c ∧ ∀ d ∈ cs, IsKeyChar d := by
  have hne : key.toList ≠ [] := fun hnil => h.1 (String.toList_eq_nil_iff.mp hnil)
  obtain ⟨c, cs, hcs⟩ := List.exists_cons_of_ne_nil hne
  exact ⟨c, cs, hcs, List.forall_mem_cons.mp (hcs ▸ h.2)⟩

/-- A pair as it is written, with its value in quotes. -/
def writePair (pair : String × String) : String :=
  pair.1 ++ "=\"" ++ String.ofList (Shell.escape pair.2.toList) ++ "\""

/-- Pairs as they are written, with spaces between them. -/
def writePairs (pairs : List (String × String)) : String :=
  joinWith " " (pairs.map writePair)

/-- The word of a pair. -/
def wordOf (pair : String × String) : List Char :=
  pair.1.toList ++ '=' :: pair.2.toList

/-- A pair is written with its value in quotes. -/
theorem toList_writePair (pair : String × String) :
    (writePair pair).toList =
      pair.1.toList ++ '=' :: '"' :: (Shell.escape pair.2.toList ++ ['"']) := by
  simp [writePair]

theorem toList_writePairs (pairs : List (String × String)) :
    (writePairs pairs).toList = join [' '] (pairs.map fun pair => (writePair pair).toList) := by
  rw [writePairs, joinWith, String.toList_ofList, List.map_map]
  rfl

/-! ## The scanner -/

/-- The characters of a key mean nothing to the scanner. -/
theorem IsKeyChar.isOrdinary {c : Char} (h : IsKeyChar c) : Shell.IsOrdinary c := by
  obtain ⟨hblank, -, hquote, hslash⟩ := h
  refine ⟨Bool.eq_false_iff.mpr fun hseparator => ?_, hquote, hslash⟩
  rw [Shell.isBlank_of_isSeparator hseparator] at hblank
  cases hblank

section Scan

variable {pair : String × String}

/-- The scanner gets through a pair with its word. -/
theorem scanWords_writePair (hkey : IsKey pair.1) (rest : List Char) :
    Shell.scanWords (fun _ => false) .between [] false ((writePair pair).toList ++ rest) =
      Shell.scanWords (fun _ => false) .word (wordOf pair).reverse true rest := by
  obtain ⟨c, cs, hcs, hc, hchars⟩ := hkey.exists_cons
  have hordinary : ∀ d ∈ cs ++ ['='], Shell.IsOrdinary d := by
    intro d hd
    rcases List.mem_append.mp hd with hd | hd
    · exact (hchars d hd).isOrdinary
    · rw [List.mem_singleton.mp hd]
      exact ⟨by decide, by decide, by decide⟩
  -- a quote within a word goes on with the same word
  have hquote : ∀ acc text, Shell.scanWords (fun _ => false) .word acc false ('"' :: text) =
      Shell.scanWords (fun _ => false) (.quotes '"') acc false text := by
    intro acc text
    simp [Shell.scanWords, Shell.isSeparator, Shell.isQuote]
  have hpair : (writePair pair).toList ++ rest =
      c :: ((cs ++ ['=']) ++ '"' :: (Shell.escape pair.2.toList ++ '"' :: rest)) := by
    rw [toList_writePair, hcs]
    simp
  have hword : pair.2.toList.reverse ++ ((cs ++ ['=']).reverse ++ [c]) = (wordOf pair).reverse := by
    rw [wordOf, hcs]
    simp
  rw [hpair, Shell.scanWords_between_ordinary hc.isOrdinary rfl,
    Shell.scanWords_ordinary hordinary (fun _ _ => rfl), hquote, Shell.scanWords_escape, hword]

/-- The scanner finds one word for each pair. -/
theorem splitWords_writePairs {pairs : List (String × String)} (hkeys : ∀ p ∈ pairs, IsKey p.1) :
    Shell.splitWords (writePairs pairs).toList = .ok (pairs.map wordOf) := by
  have hwords : List.Forall₂ (fun pair word => ∀ rest, Shell.scanWords (fun _ => false) .between []
      false ((writePair pair).toList ++ rest) =
        Shell.scanWords (fun _ => false) .word word.reverse true rest) pairs (pairs.map wordOf) :=
    List.forall₂_map_right_iff.mpr
      (List.forall₂_same.mpr fun pair hpair => scanWords_writePair (hkeys pair hpair))
  rw [toList_writePairs, Shell.splitWords]
  exact Shell.scanWords_join rfl (List.forall₂_map_left_iff.mpr hwords)

end Scan

/-! ## The reader -/

/-- The word of a pair is cut where its key ends. -/
theorem readPair_wordOf (keyword : String) {pair : String × String} (hkey : IsKey pair.1) :
    readPair keyword (wordOf pair) = .ok pair := by
  obtain ⟨c, cs, hcs, -⟩ := hkey.exists_cons
  have hequals : '=' ∉ pair.1.toList := fun h => (hkey.2 '=' h).2.1 rfl
  have hcut : cutAt '=' (wordOf pair) = some (c :: cs, pair.2.toList) := by
    rw [wordOf, cutAt_append_cons hequals, hcs]
  simp only [readPair, hcut]
  rw [← hcs, String.ofList_toList, String.ofList_toList]

section Read

variable {pairs : List (String × String)} (hne : pairs ≠ []) (hkeys : ∀ p ∈ pairs, IsKey p.1)

include hne hkeys

/-- What is written starts with the first key. -/
theorem exists_writePairs_eq :
    ∃ c key rest, (writePairs pairs).toList = c :: key ++ '=' :: rest ∧
      ∀ d ∈ c :: key, IsKeyChar d := by
  obtain ⟨pair, pairs, rfl⟩ := List.exists_cons_of_ne_nil hne
  have hkey := hkeys pair List.mem_cons_self
  obtain ⟨c, cs, hcs, -⟩ := hkey.exists_cons
  obtain ⟨back, hback⟩ : ∃ back, (writePairs (pair :: pairs)).toList =
      (writePair pair).toList ++ back := by
    rw [toList_writePairs, List.map_cons]
    cases pairs with
    | nil => exact ⟨[], (List.append_nil _).symm⟩
    | cons next pairs => exact ⟨_, List.append_assoc _ _ _⟩
  rw [hback, toList_writePair, hcs]
  exact ⟨c, cs, _, List.append_assoc _ _ _, hcs ▸ hkey.2⟩

/-- What is written may stand behind a keyword: it starts with a key and ends in a quote. -/
theorem isArgumentText_writePairs (hvalues : ∀ p ∈ pairs, IsOnOneLine p.2.toList) :
    IsArgumentText (writePairs pairs).toList := by
  constructor
  · obtain ⟨c, key, rest, htext, hchars⟩ := exists_writePairs_eq hne hkeys
    rw [htext]
    exact ⟨c, rfl, (hchars c List.mem_cons_self).1⟩
  · obtain ⟨front, pair, rfl⟩ : ∃ front pair, pairs = front ++ [pair] :=
      ⟨_, _, (List.dropLast_concat_getLast hne).symm⟩
    have hlast : (writePair pair).toList.getLast? = some '"' := by
      rw [toList_writePair, ← List.cons_append, ← List.cons_append, ← List.append_assoc,
        List.getLast?_concat]
    have hpair : (writePair pair).toList ≠ [] := by
      rw [toList_writePair]
      exact List.append_ne_nil_of_right_ne_nil _ (List.cons_ne_nil _ _)
    rw [toList_writePairs, List.map_append, List.map_singleton, getLast?_join_concat hpair, hlast]
    exact ⟨'"', rfl, by decide, by decide⟩
  · intro c hc
    rw [toList_writePairs] at hc
    rcases mem_join hc with hspace | ⟨piece, hpiece, hc⟩
    · rw [List.mem_singleton.mp hspace]
      decide
    · obtain ⟨pair, hpair, rfl⟩ := List.mem_map.mp hpiece
      rw [toList_writePair] at hc
      simp only [List.mem_append, List.mem_cons, List.not_mem_nil, or_false] at hc
      rcases hc with hc | rfl | rfl | hc | rfl
      · exact isOnOneLine_of_not_blank (fun d hd => ((hkeys pair hpair).2 d hd).1) c hc
      · decide
      · decide
      · rcases Shell.mem_escape hc with rfl | hc
        · decide
        · exact hvalues pair hpair c hc
      · decide

/-- The reader finds the pairs that were written. -/
theorem readPairs_writePairs (keyword : String) :
    readPairs keyword (writePairs pairs).toList = .ok pairs := by
  obtain ⟨c, key, rest, htext, hchars⟩ := exists_writePairs_eq hne hkeys
  -- the first word goes on behind the first equals sign, but it does contain it
  have hfirst : ∃ more back, cutWord (writePairs pairs).toList =
      some (c :: key ++ '=' :: more, back) := by
    have hkept : ∀ d ∈ c :: key, (!isBlank d) = true := fun d hd => by rw [(hchars d hd).1]; rfl
    have hleft : trimLeft (c :: (key ++ '=' :: rest)) = c :: (key ++ '=' :: rest) :=
      List.dropWhile_cons_of_neg (by simp [(hchars c List.mem_cons_self).1])
    rw [htext, cutWord, List.cons_append, hleft]
    dsimp only
    rw [← List.cons_append, List.takeWhile_append_of_pos hkept,
      List.takeWhile_cons_of_pos (by decide)]
    exact ⟨_, _, rfl⟩
  obtain ⟨more, back, hcut⟩ := hfirst
  have hcontains : (c :: key ++ '=' :: more).contains '=' = true :=
    List.contains_iff_mem.mpr (List.mem_append_right _ List.mem_cons_self)
  have hwords : readWords keyword (writePairs pairs).toList = .ok (pairs.map wordOf) := by
    rw [readWords, splitWords_writePairs hkeys]
  have hpairs : (pairs.map wordOf).mapM (readPair keyword) = .ok pairs := by
    rw [mapM_eq_ok_iff, List.forall₂_map_left_iff, List.forall₂_same]
    exact fun pair hpair => readPair_wordOf keyword (hkeys pair hpair)
  simp only [readPairs, hcut, hcontains, if_true, hwords]
  exact hpairs

end Read

/-- **Pairs are read as they were written.** Behind either keyword that takes pairs, the
written pairs are a document of one instruction, which has these pairs in this order. -/
theorem parse_writePairs {pairs : List (String × String)} (hne : pairs ≠ [])
    (hkeys : ∀ p ∈ pairs, IsKey p.1) (hvalues : ∀ p ∈ pairs, IsOnOneLine p.2.toList) :
    parse ("ENV " ++ writePairs pairs) =
        .ok [⟨.env pairs, 1, "ENV " ++ writePairs pairs⟩] ∧
      parse ("LABEL " ++ writePairs pairs) =
        .ok [⟨.label pairs, 1, "LABEL " ++ writePairs pairs⟩] := by
  have htext := isArgumentText_writePairs hne hkeys hvalues
  constructor
  · apply parse_singleLine (show "ENV" ∈ plainKeywords by decide) rfl htext
    rw [readPairs_writePairs hne hkeys]
    rfl
  · apply parse_singleLine (show "LABEL" ∈ plainKeywords by decide) rfl htext
    rw [readPairs_writePairs hne hkeys]
    rfl

/-- Keys and values that look like a comment or a heredoc, and a value that ends in a
backslash. -/
theorem parse_writePairs_of_quotes_and_backslashes :
    let pairs := [("#k", "a \"b\" = 'c' \\"), ("<<EOF", ""), ("x.y", " # $z \\\"")]
    (pairs ≠ [] ∧ (∀ p ∈ pairs, IsKey p.1) ∧ ∀ p ∈ pairs, IsOnOneLine p.2.toList) ∧
      parse ("ENV " ++ writePairs pairs) =
        .ok [⟨.env pairs, 1, "ENV " ++ writePairs pairs⟩] ∧
      parse ("LABEL " ++ writePairs pairs) =
        .ok [⟨.label pairs, 1, "LABEL " ++ writePairs pairs⟩] := by
  intro pairs
  have hpairs : pairs ≠ [] ∧ (∀ p ∈ pairs, IsKey p.1) ∧ ∀ p ∈ pairs, IsOnOneLine p.2.toList := by
    decide +kernel
  exact ⟨hpairs, parse_writePairs hpairs.1 hpairs.2.1 hpairs.2.2⟩

end ContainerLint.Dockerfile
