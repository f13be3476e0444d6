/-
Lines of text: cutting a text at a character and joining the pieces again are
inverse to each other, and bringing line ends into one form leaves nothing for a
second pass to do.

Both operations are those of the library of lists, `List.splitOnP` and
`List.intercalate`, in a form that runs by structural recursion; the first section
says so, and what is known of the library's forms carries over. What is specific
to documents is how a line feed in the middle of a text separates what stands
before it from what stands after: the two sides are cut, and their line ends are
brought into one form, independently of each other. That holds even where the text
before the line feed ends in a carriage return, which the line feed absorbs.
-/
import ContainerLint.Text.Cut

namespace ContainerLint.Text

/-! ## Splitting and joining are those of the library -/

/-- Splitting is that of the library, whose lemmas then apply. -/
theorem splitBy_eq_splitOnP {α : Type} (p : α → Bool) (cs : List α) :
    splitBy p cs = cs.splitOnP p := by
  induction cs with
  | nil => rw [splitBy, List.splitOnP_nil]
  | cons c cs ih =>
    rw [splitBy, List.splitOnP_cons_eq_if_modifyHead, ih]
    by_cases hc : p c
    · rw [if_pos hc, if_pos hc]
    · rw [if_neg hc, if_neg hc]
      obtain ⟨piece, pieces, hsplit⟩ := List.exists_cons_of_ne_nil (List.splitOnP_ne_nil p cs)
      rw [hsplit, List.modifyHead_cons]

theorem splitAtChar_eq_splitOn (sep : Char) (cs : List Char) :
    splitAtChar sep cs = cs.splitOn sep := by
  rw [splitAtChar, splitBy_eq_splitOnP, List.splitOn_eq_splitOnP]

theorem join_cons_of_ne_nil (sep piece : List Char) {pieces : List (List Char)}
    (hne : pieces ≠ []) : join sep (piece :: pieces) = piece ++ sep ++ join sep pieces := by
  obtain ⟨next, rest, rfl⟩ := List.exists_cons_of_ne_nil hne
  rfl

/-- Joining is that of the library too. -/
theorem join_eq_intercalate (sep : List Char) (pieces : List (List Char)) :
    join sep pieces = sep.intercalate pieces := by
  induction pieces with
  | nil => rw [join, List.intercalate_nil]
  | cons piece pieces ih =>
    by_cases hne : pieces = []
    · rw [hne, join, List.intercalate_singleton]
    · rw [join_cons_of_ne_nil sep piece hne, List.intercalate_cons_of_ne_nil hne, ih]

/-! ## Pieces between the occurrences of a character -/

theorem splitAtChar_ne_nil (sep : Char) (cs : List Char) : splitAtChar sep cs ≠ [] := by
  rw [splitAtChar, splitBy_eq_splitOnP]
  exact List.splitOnP_ne_nil _ _

/-- The separator between two texts keeps their pieces apart. -/
theorem splitAtChar_append_cons (sep : Char) (a b : List Char) :
    splitAtChar sep (a ++ sep :: b) = splitAtChar sep a ++ splitAtChar sep b := by
  simp only [splitAtChar, splitBy_eq_splitOnP]
  exact List.splitOnP_append_cons a b (beq_self_eq_true sep)

/-- No piece contains a separator, and each consists of entries of the list. -/
theorem mem_of_mem_splitBy {α : Type} {p : α → Bool} {c : α} {cs piece : List α}
    (hpiece : piece ∈ splitBy p cs) (hc : c ∈ piece) : c ∈ cs ∧ p c = false := by
  induction cs generalizing piece with
  | nil =>
    rw [splitBy, List.mem_singleton] at hpiece
    subst hpiece
    cases hc
  | cons d cs ih =>
    rw [splitBy] at hpiece
    by_cases hd : p d = true
    · rw [if_pos hd] at hpiece
      rcases List.mem_cons.mp hpiece with rfl | hmem
      · cases hc
      · obtain ⟨hin, hne⟩ := ih hmem hc
        exact ⟨List.mem_cons_of_mem d hin, hne⟩
    · rw [if_neg hd] at hpiece
      obtain ⟨first, rest, hsplit⟩ :=
        List.exists_cons_of_ne_nil (splitBy_eq_splitOnP p cs ▸ List.splitOnP_ne_nil p cs)
      rw [hsplit] at hpiece ih
      -- the character joins the first of the pieces that the rest splits into
      rcases List.mem_cons.mp hpiece with rfl | hmem
      · rcases List.mem_cons.mp hc with rfl | hc
        · exact ⟨List.mem_cons_self, Bool.eq_false_iff.mpr hd⟩
        · obtain ⟨hin, hne⟩ := ih List.mem_cons_self hc
          exact ⟨List.mem_cons_of_mem d hin, hne⟩
      · obtain ⟨hin, hne⟩ := ih (List.mem_cons_of_mem first hmem) hc
        exact ⟨List.mem_cons_of_mem d hin, hne⟩

/-- A piece is made of the text's characters, and never of the separator. -/
theorem mem_of_mem_splitAtChar {sep c : Char} {cs piece : List Char}
    (hpiece : piece ∈ splitAtChar sep cs) (hc : c ∈ piece) : c ∈ cs ∧ c ≠ sep := by
  obtain ⟨hin, hne⟩ := mem_of_mem_splitBy hpiece hc
  exact ⟨hin, ne_of_beq_false hne⟩

/-- **Splitting undoes joining**, as long as no piece contains the separator. -/
theorem splitAtChar_join {sep : Char} {pieces : List (List Char)}
    (hsep : ∀ piece ∈ pieces, sep ∉ piece) (hne : pieces ≠ []) :
    splitAtChar sep (join [sep] pieces) = pieces := by
  rw [join_eq_intercalate, splitAtChar_eq_splitOn]
  exact List.splitOn_intercalate sep hsep hne

/-- Splitting loses nothing. -/
theorem join_splitAtChar (sep : Char) (cs : List Char) :
    join [sep] (splitAtChar sep cs) = cs := by
  rw [join_eq_intercalate, splitAtChar_eq_splitOn, List.intercalate_splitOn]

theorem splitAtChar_eq_singleton {sep : Char} {cs : List Char} (h : sep ∉ cs) :
    splitAtChar sep cs = [cs] :=
  splitAtChar_join (List.forall_mem_singleton.mpr h) (List.cons_ne_nil cs [])

/-- The separator stands between two parts of the pieces just as between two pieces. -/
theorem join_append (sep : List Char) {front back : List (List Char)} (hfront : front ≠ [])
    (hback : back ≠ []) :
    join sep (front ++ back) = join sep front ++ sep ++ join sep back := by
  induction front with
  | nil => exact absurd rfl hfront
  | cons piece front ih =>
    by_cases hrest : front = []
    · subst hrest
      rw [List.singleton_append, join_cons_of_ne_nil sep piece hback, join]
    · rw [List.cons_append, join_cons_of_ne_nil sep piece (by simp [hrest]), ih hrest,
        join_cons_of_ne_nil sep piece hrest]
      simp only [List.append_assoc]

/-- Joining groups of pieces and then the groups is joining all pieces at once. -/
theorem join_map_join (sep : List Char) {groups : List (List (List Char))}
    (hgroups : ∀ group ∈ groups, group ≠ []) :
    join sep (groups.map (join sep)) = join sep groups.flatten := by
  induction groups with
  | nil => rfl
  | cons group groups ih =>
    have hgroup : group ≠ [] := hgroups group List.mem_cons_self
    have hrest : ∀ g ∈ groups, g ≠ [] := fun g hg => hgroups g (List.mem_cons_of_mem group hg)
    by_cases hne : groups = []
    · rw [hne, List.map_singleton, join, List.flatten_singleton]
    · have hflat : groups.flatten ≠ [] := by
        obtain ⟨next, rest, rfl⟩ := List.exists_cons_of_ne_nil hne
        rw [List.flatten_cons]
        exact List.append_ne_nil_of_left_ne_nil (hrest next List.mem_cons_self) _
      rw [List.map_cons, join_cons_of_ne_nil _ _ (by simpa using hne), ih hrest,
        List.flatten_cons, join_append sep hgroup hflat]

/-- Joining adds nothing but the separator. -/
theorem mem_join {sep : List Char} {pieces : List (List Char)} {c : Char}
    (hc : c ∈ join sep pieces) : c ∈ sep ∨ ∃ piece ∈ pieces, c ∈ piece := by
  induction pieces with
  | nil => simp [join] at hc
  | cons piece pieces ih =>
    by_cases hne : pieces = []
    · subst hne
      exact Or.inr ⟨piece, List.mem_cons_self, hc⟩
    · rw [join_cons_of_ne_nil sep piece hne, List.append_assoc, List.mem_append,
        List.mem_append] at hc
      rcases hc with hc | hc | hc
      · exact Or.inr ⟨piece, List.mem_cons_self, hc⟩
      · exact Or.inl hc
      · rcases ih hc with hsep | ⟨p, hp, hcp⟩
        · exact Or.inl hsep
        · exact Or.inr ⟨p, List.mem_cons_of_mem piece hp, hcp⟩

theorem head?_join_cons {sep piece : List Char} {pieces : List (List Char)} {c : Char}
    (hpiece : piece.head? = some c) : (join sep (piece :: pieces)).head? = some c := by
  obtain ⟨cs, rfl⟩ := List.head?_eq_some_iff.mp hpiece
  by_cases hne : pieces = []
  · rw [hne]
    rfl
  · rw [join_cons_of_ne_nil sep _ hne]
    rfl

/-- A joined text opens with its first piece, unless that is empty. -/
theorem head?_of_head?_join {sep c : Char} {piece : List Char} {pieces : List (List Char)}
    (hc : c ≠ sep) (hjoin : (join [sep] (piece :: pieces)).head? = some c) :
    piece.head? = some c := by
  cases piece with
  | cons d cs =>
    by_cases hne : pieces = []
    · rwa [hne] at hjoin
    · rwa [join_cons_of_ne_nil _ _ hne] at hjoin
  | nil =>
    by_cases hne : pieces = []
    · rwa [hne] at hjoin
    · rw [join_cons_of_ne_nil _ _ hne] at hjoin
      simp only [List.nil_append, List.cons_append, List.head?_cons, Option.some.injEq] at hjoin
      exact absurd hjoin.symm hc

/-- A joined text ends as its last piece does, unless that is empty. -/
theorem getLast?_join_concat {sep piece : List Char} (hpiece : piece ≠ [])
    (pieces : List (List Char)) :
    (join sep (pieces ++ [piece])).getLast? = piece.getLast? := by
  by_cases hne : pieces = []
  · rw [hne]
    rfl
  · rw [join_append sep hne (List.cons_ne_nil _ _), List.getLast?_append, join,
      List.getLast?_eq_some_getLast hpiece, Option.some_or]

/-! ## Trimming -/

/-- Dropping from the front stops at the first character outside the class. -/
theorem dropWhile_append_cons {p : Char → Bool} {c : Char} (hc : p c = false) (a b : List Char) :
    (a ++ c :: b).dropWhile p = a.dropWhile p ++ c :: b := by
  rw [List.dropWhile_append]
  split
  next hempty =>
    rw [List.isEmpty_iff.mp hempty, List.dropWhile_cons_of_neg (by simp [hc]), List.nil_append]
  next => rfl

theorem trimRight_cons {c : Char} (hc : isBlank c = false) (cs : List Char) :
    trimRight (c :: cs) = c :: trimRight cs := by
  simp only [trimRight, dropBack, List.reverse_cons, List.dropWhile_append]
  by_cases hempty : (cs.reverse.dropWhile isBlank).isEmpty = true
  · rw [if_pos hempty, List.isEmpty_iff.mp hempty, List.dropWhile_cons_of_neg (by simp [hc])]
    rfl
  · rw [if_neg hempty, List.reverse_append]
    rfl

/-- A character that is no blank stays in front. -/
theorem trim_cons {c : Char} (hc : isBlank c = false) (cs : List Char) :
    trim (c :: cs) = c :: trimRight cs := by
  rw [trim, dropEnds, dropFront, List.dropWhile_cons_of_neg (by simp [hc])]
  exact trimRight_cons hc cs

/-- Dropping from the back stops at the last character that is no blank. -/
theorem trimRight_append_cons {c : Char} (hc : isBlank c = false) (front back : List Char) :
    trimRight (front ++ c :: back) = front ++ c :: trimRight back := by
  rw [← trimRight_cons hc]
  simp only [trimRight, dropBack, List.reverse_append, List.reverse_cons, List.append_assoc,
    List.singleton_append, dropWhile_append_cons hc, List.reverse_reverse]
  rfl

/-- Trimming starts at the first character that is not blank. -/
theorem trim_append_cons {c : Char} {front : List Char} (hfront : allBlank front = true)
    (hc : isBlank c = false) (back : List Char) :
    trim (front ++ c :: back) = c :: trimRight back := by
  rw [← trim_cons hc, trim, dropEnds, dropFront,
    List.dropWhile_append_of_pos (List.all_eq_true.mp hfront)]
  rfl

theorem dropWhile_of_allBlank {cs : List Char} (h : allBlank cs = true) :
    cs.dropWhile isBlank = [] := by
  have hdrop : (cs ++ []).dropWhile isBlank = [] :=
    List.dropWhile_append_of_pos (List.all_eq_true.mp h)
  rwa [List.append_nil] at hdrop

theorem trimRight_of_allBlank {cs : List Char} (h : allBlank cs = true) : trimRight cs = [] := by
  have hreverse : allBlank cs.reverse = true := by rw [allBlank, List.all_reverse]; exact h
  rw [trimRight, dropBack, dropWhile_of_allBlank hreverse, List.reverse_nil]

theorem trim_of_allBlank {cs : List Char} (h : allBlank cs = true) : trim cs = [] := by
  rw [trim, dropEnds, dropFront, dropWhile_of_allBlank h]
  rfl

/-- A text that is not blank has a first character that is no blank. -/
theorem exists_first_of_not_allBlank {cs : List Char} (h : allBlank cs = false) :
    ∃ front c back, cs = front ++ c :: back ∧ allBlank front = true ∧ isBlank c = false := by
  induction cs with
  | nil => cases h
  | cons d cs ih =>
    by_cases hd : isBlank d = true
    · have hcs : allBlank cs = false := by simpa [allBlank, hd] using h
      obtain ⟨front, c, back, rfl, hfront, hc⟩ := ih hcs
      have hcons : allBlank (d :: front) = true := by
        rw [allBlank, List.all_cons, hd]
        exact hfront
      exact ⟨d :: front, c, back, rfl, hcons, hc⟩
    · exact ⟨[], d, cs, rfl, rfl, by simpa using hd⟩

/-- A text that is not blank ends, blanks aside, in a character that is no blank. -/
theorem exists_trimRight_concat {cs : List Char} (h : allBlank cs = false) :
    ∃ front c, trimRight cs = front ++ [c] ∧ isBlank c = false := by
  have hreverse : allBlank cs.reverse = false := by rw [allBlank, List.all_reverse]; exact h
  obtain ⟨back, c, front, hcs, hback, hc⟩ := exists_first_of_not_allBlank hreverse
  have hdrop : cs.reverse.dropWhile isBlank = c :: front := by
    rw [hcs, List.dropWhile_append_of_pos (List.all_eq_true.mp hback),
      List.dropWhile_cons_of_neg (by simp [hc])]
  exact ⟨front.reverse, c, by rw [trimRight, dropBack, hdrop, List.reverse_cons], hc⟩

/-- A text is trimmed on the right once. -/
theorem trimRight_trimRight (cs : List Char) : trimRight (trimRight cs) = trimRight cs := by
  by_cases h : allBlank cs = true
  · rw [trimRight_of_allBlank h]
    rfl
  · obtain ⟨front, c, hcs, hc⟩ := exists_trimRight_concat (Bool.eq_false_iff.mpr h)
    rw [hcs, trimRight_append_cons hc]
    rfl

/-- Blanks at the back may go first. -/
theorem trim_trimRight (cs : List Char) : trim (trimRight cs) = trim cs := by
  by_cases h : allBlank cs = true
  · rw [trimRight_of_allBlank h, trim_of_allBlank h]
    rfl
  · obtain ⟨front, c, back, rfl, hfront, hc⟩ :=
      exists_first_of_not_allBlank (Bool.eq_false_iff.mpr h)
    rw [trimRight_append_cons hc, trim_append_cons hfront hc, trim_append_cons hfront hc,
      trimRight_trimRight]

/-- A text that neither starts nor ends with a blank is trimmed already. -/
theorem trim_eq_self {cs : List Char} (hhead : ∃ c ∈ cs.head?, isBlank c = false)
    (hlast : ∃ c ∈ cs.getLast?, isBlank c = false) : trim cs = cs := by
  obtain ⟨c, hc, hblank⟩ := hhead
  obtain ⟨d, hd, hblank'⟩ := hlast
  obtain ⟨tail, rfl⟩ := List.head?_eq_some_iff.mp hc
  obtain ⟨front, hfront⟩ := List.getLast?_eq_some_iff.mp hd
  have hright : trimRight (c :: tail) = c :: tail := by
    rw [hfront, trimRight_append_cons hblank']
    rfl
  rw [trim_cons hblank, ← trimRight_cons hblank, hright]

/-- A trimmed text starts with a character that is no blank, and it ends as the text does
without the blanks at its back. -/
theorem ends_of_trim {cs : List Char} (h : allBlank cs = false) :
    (∃ c ∈ (trim cs).head?, isBlank c = false) ∧ (∃ c ∈ (trim cs).getLast?, isBlank c = false) ∧
      (trim cs).getLast? = (trimRight cs).getLast? := by
  obtain ⟨front, c, back, rfl, hfront, hc⟩ := exists_first_of_not_allBlank h
  have hlast : (trim (front ++ c :: back)).getLast? =
      (trimRight (front ++ c :: back)).getLast? := by
    rw [trim_append_cons hfront hc, trimRight_append_cons hc, List.getLast?_append,
      List.getLast?_cons, Option.some_or]
  refine ⟨⟨c, by rw [trim_append_cons hfront hc]; rfl, hc⟩, ?_, hlast⟩
  obtain ⟨begun, d, hright, hd⟩ := exists_trimRight_concat h
  exact ⟨d, by rw [hlast, hright, List.getLast?_concat]; rfl, hd⟩

/-- The text is not empty and has no blank at either end. -/
def IsTrimmed (cs : List Char) : Prop :=
  (∃ c ∈ cs.head?, isBlank c = false) ∧ ∃ c ∈ cs.getLast?, isBlank c = false

theorem IsTrimmed.ne_nil {cs : List Char} (h : IsTrimmed cs) : cs ≠ [] := by
  rintro rfl
  obtain ⟨⟨c, hc, -⟩, -⟩ := h
  cases hc

/-- A text that is not all blank is trimmed to one that begins and ends with ink. -/
theorem isTrimmed_trim {cs : List Char} (h : allBlank cs = false) : IsTrimmed (trim cs) :=
  ⟨(ends_of_trim h).1, (ends_of_trim h).2.1⟩

/-- What trimming leaves alone is nothing, or begins and ends with ink. -/
theorem trim_eq_self_iff {cs : List Char} : trim cs = cs ↔ cs = [] ∨ IsTrimmed cs := by
  constructor
  · intro h
    by_cases hblank : allBlank cs = true
    · exact .inl (h.symm.trans (trim_of_allBlank hblank))
    · exact .inr (h ▸ isTrimmed_trim (Bool.eq_false_iff.mpr hblank))
  · rintro (rfl | h)
    · rfl
    · exact trim_eq_self h.1 h.2

/-- A text is trimmed once. -/
theorem trim_trim (cs : List Char) : trim (trim cs) = trim cs := by
  by_cases hblank : allBlank cs = true
  · rw [trim_of_allBlank hblank]
    rfl
  · exact trim_eq_self_iff.mpr (.inr (isTrimmed_trim (Bool.eq_false_iff.mpr hblank)))

theorem trimLeft_append_cons {c : Char} {front : List Char} (hfront : allBlank front = true)
    (hc : isBlank c = false) (back : List Char) : trimLeft (front ++ c :: back) = c :: back := by
  rw [trimLeft, dropFront, List.dropWhile_append_of_pos (List.all_eq_true.mp hfront),
    List.dropWhile_cons_of_neg (by simp [hc])]

theorem trim_trimLeft (cs : List Char) : trim (trimLeft cs) = trim cs := by
  by_cases hblank : allBlank cs = true
  · rw [trimLeft, dropFront, dropWhile_of_allBlank hblank, trim_of_allBlank hblank]
    rfl
  · obtain ⟨front, c, back, rfl, hfront, hc⟩ :=
      exists_first_of_not_allBlank (Bool.eq_false_iff.mpr hblank)
    rw [trimLeft_append_cons hfront hc, trim_append_cons hfront hc, trim_cons hc]

/-- Either end may be trimmed first. -/
theorem trimLeft_trimRight (cs : List Char) : trimLeft (trimRight cs) = trim cs := by
  by_cases hblank : allBlank cs = true
  · rw [trimRight_of_allBlank hblank, trim_of_allBlank hblank]
    rfl
  · obtain ⟨front, c, back, rfl, hfront, hc⟩ :=
      exists_first_of_not_allBlank (Bool.eq_false_iff.mpr hblank)
    rw [trimRight_append_cons hc, trim_append_cons hfront hc, trimLeft_append_cons hfront hc]

/-- Only the last part that has ink in it is trimmed on the right. -/
theorem trimRight_append {back : List Char} (h : allBlank back = false) (front : List Char) :
    trimRight (front ++ back) = front ++ trimRight back := by
  obtain ⟨blanks, c, rest, rfl, -, hc⟩ := exists_first_of_not_allBlank h
  rw [← List.append_assoc, trimRight_append_cons hc, trimRight_append_cons hc, List.append_assoc]

/-- What is trimmed on the left begins with ink, if it begins. -/
theorem head?_trimLeft {cs : List Char} (h : trimLeft cs ≠ []) :
    ∃ c ∈ (trimLeft cs).head?, isBlank c = false := by
  obtain ⟨c, rest, hrest⟩ := List.exists_cons_of_ne_nil h
  refine ⟨c, by rw [hrest]; rfl, ?_⟩
  have hhead := List.head?_dropWhile_not isBlank cs
  rw [trimLeft, dropFront] at hrest
  rw [hrest] at hhead
  simpa using hhead

/-- What is left of a trimmed text, behind a front and the blanks after it, is trimmed. -/
theorem trim_trimLeft_of_suffix {cs back : List Char} (h : trim cs = cs) (hback : back <:+ cs) :
    trim (trimLeft back) = trimLeft back := by
  rw [trim_eq_self_iff]
  by_cases hnil : trimLeft back = []
  · exact .inl hnil
  have hsuffix : trimLeft back <:+ cs := (List.dropWhile_suffix isBlank).trans hback
  obtain ⟨front, rfl⟩ := hsuffix
  rcases trim_eq_self_iff.mp h with hcs | ⟨-, c, hc, hblank⟩
  · exact absurd (List.append_eq_nil_iff.mp hcs).2 hnil
  · refine .inr ⟨head?_trimLeft hnil, c, ?_, hblank⟩
    rw [List.getLast?_append, List.getLast?_eq_some_getLast hnil, Option.some_or] at hc
    rwa [List.getLast?_eq_some_getLast hnil]

/-- A text that starts with a word has words. -/
theorem words_ne_nil {cs : List Char} (h : ∃ c ∈ cs.head?, isBlank c = false) : words cs ≠ [] := by
  obtain ⟨c, hc, hblank⟩ := h
  obtain ⟨rest, rfl⟩ := List.head?_eq_some_iff.mp hc
  rw [words, splitBy, if_neg (by simp [hblank])]
  split <;> simp

theorem ne_nil_of_mem_words {cs word : List Char} (h : word ∈ words cs) : word ≠ [] := by
  rintro rfl
  exact absurd (List.mem_filter.mp h).2 (by decide)

/-! ## Line ends -/

/-- A text without carriage returns has its line ends in one form already. -/
theorem unifyNewlines_eq_self {cs : List Char} (hcs : '\r' ∉ cs) : unifyNewlines cs = cs := by
  fun_induction unifyNewlines cs with
  | case1 => rfl
  | case2 cs ih => exact absurd List.mem_cons_self hcs
  | case3 cs hcrlf ih => exact absurd List.mem_cons_self hcs
  | case4 c cs hcrlf hcr ih => rw [ih (fun h => hcs (List.mem_cons_of_mem c h))]

/-- No carriage return is left. -/
theorem cr_not_mem_unifyNewlines (cs : List Char) : '\r' ∉ unifyNewlines cs := by
  fun_induction unifyNewlines cs with
  | case1 => simp
  | case2 cs ih => simpa using ih
  | case3 cs hcrlf ih => simpa using ih
  | case4 c cs hcrlf hcr ih =>
    intro hmem
    rcases List.mem_cons.mp hmem with hc | hmem
    · exact hcr hc.symm
    · exact ih hmem

/-- A carriage return that no line feed follows stands for a line feed. -/
theorem unifyNewlines_cr {cs : List Char} (hcs : cs.head? ≠ some '\n') :
    unifyNewlines ('\r' :: cs) = '\n' :: unifyNewlines cs := by
  rw [unifyNewlines]
  rintro rest rfl
  exact hcs rfl

/-- Only a carriage return is rewritten. -/
theorem unifyNewlines_cons {c : Char} (hc : c ≠ '\r') (cs : List Char) :
    unifyNewlines (c :: cs) = c :: unifyNewlines cs := by
  rw [unifyNewlines]
  · rintro rest rfl
    exact absurd rfl hc
  · exact hc

/-- **Two texts are brought into one form by themselves**, unless a carriage return and a
line feed meet between them. -/
theorem unifyNewlines_append {a b : List Char}
    (h : a.getLast? = some '\r' → b.head? ≠ some '\n') :
    unifyNewlines (a ++ b) = unifyNewlines a ++ unifyNewlines b := by
  have htail : ∀ c cs, ((c :: cs).getLast? = some '\r' → b.head? ≠ some '\n') →
      cs.getLast? = some '\r' → b.head? ≠ some '\n' := by
    intro c cs h hcs
    exact h (by rw [List.getLast?_cons, hcs, Option.getD_some])
  fun_induction unifyNewlines a with
  | case1 => rfl
  | case2 cs ih =>
    simp only [List.cons_append, unifyNewlines, ih (htail _ _ (htail _ _ h))]
  | case3 cs hcrlf ih =>
    -- no line feed of the second text may follow, or it would be joined to this return
    have hhead : (cs ++ b).head? ≠ some '\n' := by
      cases cs with
      | nil => exact h rfl
      | cons d cs =>
        intro hd
        exact hcrlf cs (by rw [Option.some.inj hd])
    rw [List.cons_append, unifyNewlines_cr hhead, ih (htail _ _ h), List.cons_append]
  | case4 c cs hcrlf hcr ih =>
    rw [List.cons_append, unifyNewlines_cons hcr, ih (htail _ _ h), List.cons_append]

/-- What follows a line feed is brought into one form by itself. -/
theorem unifyNewlines_append_newline (a b : List Char) :
    unifyNewlines (a ++ '\n' :: b) = unifyNewlines (a ++ ['\n']) ++ unifyNewlines b := by
  rw [← unifyNewlines_append (by simp), List.append_assoc, List.singleton_append]

/-- A text that ends in a line feed still does. -/
theorem unifyNewlines_concat_newline (a : List Char) :
    ∃ front, unifyNewlines (a ++ ['\n']) = front ++ ['\n'] := by
  fun_induction unifyNewlines a with
  | case1 => exact ⟨[], rfl⟩
  | case2 cs ih =>
    obtain ⟨front, hfront⟩ := ih
    exact ⟨'\n' :: front, by simp only [List.cons_append, unifyNewlines, hfront]⟩
  | case3 cs hcrlf ih =>
    obtain ⟨front, hfront⟩ := ih
    cases cs with
    | nil => exact ⟨[], rfl⟩
    | cons d cs =>
      have hd : d ≠ '\n' := fun h => hcrlf cs (by rw [h])
      refine ⟨'\n' :: front, ?_⟩
      rw [List.cons_append, unifyNewlines_cr (by simpa using hd), hfront, List.cons_append]
  | case4 c cs hcrlf hcr ih =>
    obtain ⟨front, hfront⟩ := ih
    exact ⟨c :: front, by rw [List.cons_append, unifyNewlines_cons hcr, hfront, List.cons_append]⟩

/-- A text that ends in a line end of either kind ends in a line feed then. -/
theorem exists_unifyNewlines_concat {a : List Char}
    (h : a.getLast? = some '\n' ∨ a.getLast? = some '\r') :
    ∃ front, unifyNewlines a = front ++ ['\n'] := by
  rcases h with h | h
  · obtain ⟨front, rfl⟩ := List.getLast?_eq_some_iff.mp h
    exact unifyNewlines_concat_newline front
  · obtain ⟨front, rfl⟩ := List.getLast?_eq_some_iff.mp h
    exact ⟨unifyNewlines front, unifyNewlines_append fun _ => by simp⟩

/-! ## On one line -/

/-- No line ends here. -/
def IsOnOneLine (cs : List Char) : Prop :=
  ∀ c ∈ cs, c ≠ '\n' ∧ c ≠ '\r'

instance (cs : List Char) : Decidable (IsOnOneLine cs) :=
  List.decidableBAll (fun c => c ≠ '\n' ∧ c ≠ '\r') cs

/-- A text is on one line if its parts are. -/
theorem isOnOneLine_append {a b : List Char} :
    IsOnOneLine (a ++ b) ↔ IsOnOneLine a ∧ IsOnOneLine b :=
  List.forall_mem_append

theorem isOnOneLine_cons {c : Char} {cs : List Char} :
    IsOnOneLine (c :: cs) ↔ (c ≠ '\n' ∧ c ≠ '\r') ∧ IsOnOneLine cs :=
  List.forall_mem_cons

/-- Line ends are blanks. -/
theorem isOnOneLine_of_not_blank {cs : List Char} (h : ∀ c ∈ cs, isBlank c = false) :
    IsOnOneLine cs := by
  intro c hc
  constructor
  · rintro rfl
    exact absurd (h _ hc) (by decide)
  · rintro rfl
    exact absurd (h _ hc) (by decide)

theorem IsOnOneLine.not_mem {cs : List Char} (h : IsOnOneLine cs) : '\n' ∉ cs ∧ '\r' ∉ cs :=
  ⟨fun hmem => (h _ hmem).1 rfl, fun hmem => (h _ hmem).2 rfl⟩

/-! ## Numbers of pieces -/

/-- There is one piece more than there are separators. -/
theorem length_splitAtChar (sep : Char) (cs : List Char) :
    (splitAtChar sep cs).length = cs.count sep + 1 := by
  induction cs with
  | nil => rfl
  | cons c cs ih =>
    rw [splitAtChar] at ih ⊢
    rw [splitBy, List.count_cons]
    split
    next => rw [List.length_cons, ih]
    next =>
      rw [Nat.add_zero, ← ih]
      cases hpieces : splitBy (· == sep) cs with
      | nil => exact absurd hpieces (splitAtChar_ne_nil sep cs)
      | cons piece pieces => rfl

end ContainerLint.Text
