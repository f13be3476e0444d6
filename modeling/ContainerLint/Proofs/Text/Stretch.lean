/-
Stretches of a text.

To trim a text, to split it or to cut it in two gives stretches of the text. So what
holds of every stretch of a text holds of all that is cut out of it, however often.
-/
import ContainerLint.Proofs.Text.Lines

namespace ContainerLint.Text

variable {p : Char → Bool} {sep : Char} {cs piece front back : List Char}

/-! ## Trimming -/

theorem infix_dropFront (p : Char → Bool) (cs : List Char) : dropFront p cs <:+: cs :=
  (List.dropWhile_suffix p).isInfix

theorem infix_dropBack (p : Char → Bool) (cs : List Char) : dropBack p cs <:+: cs := by
  rw [← List.reverse_infix, dropBack, List.reverse_reverse]
  exact (List.dropWhile_suffix p).isInfix

theorem infix_dropEnds (p : Char → Bool) (cs : List Char) : dropEnds p cs <:+: cs :=
  (infix_dropBack p _).trans (infix_dropFront p cs)

theorem infix_trim (cs : List Char) : trim cs <:+: cs :=
  infix_dropEnds isBlank cs

/-- A blank in front is trimmed off. -/
theorem trim_cons_of_isBlank {c : Char} (hc : isBlank c = true) (cs : List Char) :
    trim (c :: cs) = trim cs := by
  rw [trim, trim, dropEnds, dropEnds, dropFront, dropFront, List.dropWhile_cons_of_pos hc]

theorem head?_trimRight {c : Char} (h : (trimRight cs).head? = some c) :
    cs.head? = some c := by
  have hstart : trimRight cs <+: cs := by
    rw [← List.reverse_suffix, trimRight, dropBack, List.reverse_reverse]
    exact List.dropWhile_suffix isBlank
  obtain ⟨back, hback⟩ := hstart
  rw [← hback, List.head?_append, h, Option.some_or]

/-! ## Splitting -/

/-- The texts are pieces of `cs`, the first one its front. -/
def ArePieces (cs : List Char) : List (List Char) → Prop
  | [] => False
  | first :: rest => first <+: cs ∧ ∀ piece ∈ rest, piece <:+: cs

/-- A piece is a stretch of the text. -/
theorem ArePieces.infix_of_mem {pieces : List (List Char)} (h : ArePieces cs pieces)
    (hpiece : piece ∈ pieces) : piece <:+: cs := by
  cases pieces with
  | nil => exact h.elim
  | cons first rest =>
    rcases List.mem_cons.mp hpiece with rfl | hrest
    · exact h.1.isInfix
    · exact h.2 piece hrest

/-- To leave out what stands in front starts a new piece. -/
theorem ArePieces.cut {pieces : List (List Char)} (h : ArePieces cs pieces) (front : List Char) :
    ArePieces (front ++ cs) ([] :: pieces) :=
  ⟨ List.nil_prefix, fun _ hpiece =>
    (h.infix_of_mem hpiece).trans (List.suffix_append front cs).isInfix⟩

/-- To keep the character that stands in front adds it to the first piece. -/
theorem ArePieces.keep {rest : List (List Char)} (h : ArePieces cs (piece :: rest)) (c : Char) :
    ArePieces (c :: cs) ((c :: piece) :: rest) :=
  ⟨(List.prefix_cons_inj c).mpr h.1, fun _ hrest => List.infix_cons (h.2 _ hrest)⟩

/-- Splitting cuts the text into pieces. -/
theorem arePieces_splitBy (p : Char → Bool) (cs : List Char) : ArePieces cs (splitBy p cs) := by
  induction cs with
  | nil => exact ⟨ List.nil_prefix, fun _ h => (nomatch h)⟩
  | cons c cs ih =>
    rw [splitBy]
    split
    · exact ih.cut [c]
    · cases hpieces : splitBy p cs with
      | nil => rw [hpieces] at ih; exact ih.elim
      | cons first rest => rw [hpieces] at ih; exact ih.keep c

/-- What is no separator stands in some piece. -/
theorem exists_mem_splitBy_of_mem {c : Char} (hc : c ∈ cs) (hp : p c = false) :
    ∃ piece ∈ splitBy p cs, c ∈ piece := by
  induction cs with
  | nil => cases hc
  | cons d cs ih =>
    have hpieces := arePieces_splitBy p cs
    rw [splitBy]
    by_cases hd : p d = true
    · have hne : c ≠ d := by
        rintro rfl
        rw [hp] at hd
        cases hd
      obtain ⟨piece, hpiece, hmem⟩ := ih ((List.mem_cons.mp hc).resolve_left hne)
      rw [if_pos hd]
      exact ⟨piece, List.mem_cons_of_mem _ hpiece, hmem⟩
    · rw [if_neg hd]
      cases hsplit : splitBy p cs with
      | nil =>
        rw [hsplit] at hpieces
        exact hpieces.elim
      | cons first rest =>
        rw [hsplit] at ih
        rcases List.mem_cons.mp hc with rfl | hcs
        · exact ⟨c :: first, List.mem_cons_self, List.mem_cons_self⟩
        · obtain ⟨piece, hpiece, hmem⟩ := ih hcs
          rcases List.mem_cons.mp hpiece with rfl | hrest
          · exact ⟨d :: piece, List.mem_cons_self, List.mem_cons_of_mem _ hmem⟩
          · exact ⟨piece, List.mem_cons_of_mem _ hrest, hmem⟩

theorem infix_of_mem_splitAtChar (h : piece ∈ splitAtChar sep cs) : piece <:+: cs :=
  (arePieces_splitBy _ cs).infix_of_mem h

theorem infix_of_mem_words (h : piece ∈ words cs) : piece <:+: cs :=
  (arePieces_splitBy _ cs).infix_of_mem (List.mem_filter.mp h).1

/-- **Lines are stretches of the text**, whatever marks their ends. -/
theorem arePieces_splitAtChar_unifyNewlines (cs : List Char) :
    ArePieces cs (splitAtChar '\n' (unifyNewlines cs)) := by
  fun_induction unifyNewlines cs with
  | case1 => exact arePieces_splitBy _ []
  | case2 cs ih => exact ih.cut ['\r', '\n']
  | case3 cs hcs ih => exact ih.cut ['\r']
  | case4 c cs hc hcr ih =>
    rw [splitAtChar, splitBy]
    split
    · exact ih.cut [c]
    · cases hpieces : splitAtChar '\n' (unifyNewlines cs) with
      | nil => exact absurd hpieces (splitAtChar_ne_nil _ _)
      | cons first rest =>
        rw [hpieces] at ih
        rw [splitAtChar] at hpieces
        rw [hpieces]
        exact ih.keep c

/-! ## Cutting in two -/

/-- The cut is at the first separator. -/
theorem cutAt_append_cons {front : List Char} (hfront : sep ∉ front) (back : List Char) :
    cutAt sep (front ++ sep :: back) = some (front, back) := by
  induction front with
  | nil => simp [cutAt]
  | cons c front ih =>
    rw [List.mem_cons, not_or] at hfront
    simp [cutAt, Ne.symm hfront.1, ih hfront.2]

/-- Cutting loses nothing but the separator. -/
theorem append_of_cutAt (h : cutAt sep cs = some (front, back)) : cs = front ++ sep :: back := by
  induction cs generalizing front with
  | nil => cases h
  | cons c cs ih =>
    rw [cutAt] at h
    by_cases hc : (c == sep) = true
    · rw [if_pos hc] at h
      cases h
      rw [beq_iff_eq.mp hc, List.nil_append]
    · rw [if_neg hc, Option.map_eq_some_iff] at h
      obtain ⟨⟨front', back'⟩, hcut, hpair⟩ := h
      cases hpair
      rw [ih hcut, List.cons_append]

theorem cutAt_eq_none_iff : cutAt sep cs = none ↔ sep ∉ cs := by
  induction cs with
  | nil => simp [cutAt]
  | cons c cs ih =>
    by_cases hc : c = sep
    · simp [cutAt, hc]
    · simp [cutAt, hc, Ne.symm hc, ih]

theorem not_mem_of_cutAt (h : cutAt sep cs = some (front, back)) : sep ∉ front := by
  induction cs generalizing front with
  | nil => cases h
  | cons c cs ih =>
    rw [cutAt] at h
    by_cases hc : (c == sep) = true
    · rw [if_pos hc] at h
      cases h
      exact List.not_mem_nil
    · rw [if_neg hc, Option.map_eq_some_iff] at h
      obtain ⟨⟨front', back'⟩, hcut, hpair⟩ := h
      cases hpair
      have hne : sep ≠ c := fun h => hc (beq_iff_eq.mpr h.symm)
      simp [hne, ih hcut]

/-- **The first cut**: the text falls apart at a separator that none precedes. -/
theorem cutAt_eq_some_iff :
    cutAt sep cs = some (front, back) ↔ cs = front ++ sep :: back ∧ sep ∉ front := by
  constructor
  · intro h
    exact ⟨append_of_cutAt h, not_mem_of_cutAt h⟩
  · rintro ⟨rfl, hfront⟩
    exact cutAt_append_cons hfront back

theorem cutAtLast_eq_none_iff : cutAtLast sep cs = none ↔ sep ∉ cs := by
  simp [cutAtLast, cutAt_eq_none_iff]

/-- **The last cut**: the text falls apart at a separator that none follows. -/
theorem cutAtLast_eq_some_iff :
    cutAtLast sep cs = some (front, back) ↔ cs = front ++ sep :: back ∧ sep ∉ back := by
  have hreverse : cutAtLast sep cs = some (front, back) ↔
      cutAt sep cs.reverse = some (back.reverse, front.reverse) := by
    rw [cutAtLast, Option.map_eq_some_iff]
    constructor
    · rintro ⟨⟨b, f⟩, hcut, hpair⟩
      obtain ⟨rfl, rfl⟩ := Prod.mk.inj hpair
      rw [hcut, List.reverse_reverse, List.reverse_reverse]
    · intro hcut
      exact ⟨_, hcut, by simp⟩
  rw [hreverse, cutAt_eq_some_iff, List.mem_reverse, List.reverse_eq_iff]
  simp

/-- A name has a first character and others. -/
theorem isName_iff {first rest : Char → Bool} {cs : List Char} :
    isName first rest cs = true ↔
      ∃ c more, cs = c :: more ∧ first c = true ∧ ∀ d ∈ more, rest d = true := by
  cases cs with
  | nil => simp [isName]
  | cons c more =>
    rw [isName, Bool.and_eq_true, List.all_eq_true]
    constructor
    · intro h
      exact ⟨c, more, rfl, h⟩
    · rintro ⟨d, rest, hcons, h⟩
      rwa [(List.cons.inj hcons).1, (List.cons.inj hcons).2]

/-- A front of one class ends where something else stands. -/
theorem span_append {p : Char → Bool} {front tail : List Char} (hfront : ∀ c ∈ front, p c = true)
    (htail : ∀ c ∈ tail.head?, p c = false) :
    (front ++ tail).takeWhile p = front ∧ (front ++ tail).dropWhile p = tail := by
  rw [List.takeWhile_append_of_pos hfront, List.dropWhile_append_of_pos hfront]
  cases tail with
  | nil => exact ⟨List.append_nil front, rfl⟩
  | cons c tail => simp [htail c rfl]

/-- The first word ends where the first blank stands. -/
theorem cutWord_append {word tail : List Char} (hne : word ≠ [])
    (hword : ∀ c ∈ word, isBlank c = false) (htail : ∀ c ∈ tail.head?, isBlank c = true) :
    cutWord (word ++ tail) = some (word, trimLeft tail) := by
  obtain ⟨htake, hdrop⟩ := @span_append (!isBlank ·) word tail
    (fun c hc => by rw [hword c hc]; rfl) (fun c hc => by rw [htail c hc]; rfl)
  obtain ⟨first, rest, rfl⟩ := List.exists_cons_of_ne_nil hne
  have hleft : trimLeft (first :: rest ++ tail) = first :: (rest ++ tail) :=
    List.dropWhile_cons_of_neg (by simp [hword first List.mem_cons_self])
  unfold cutWord
  rw [hleft]
  dsimp only
  rw [← List.cons_append, htake, hdrop]

/-- The first word of a text, and what is behind it. -/
theorem exists_of_cutWord {text word rest : List Char} (h : cutWord text = some (word, rest)) :
    ∃ tail, trimLeft text = word ++ tail ∧ rest = trimLeft tail ∧ word ≠ [] ∧
      (∀ c ∈ word, isBlank c = false) ∧ ∀ c ∈ tail.head?, isBlank c = true := by
  unfold cutWord at h
  split at h
  next => cases h
  next c cs htext =>
    obtain ⟨rfl, rfl⟩ := Prod.mk.inj (Option.some.inj h)
    obtain ⟨d, hd, hblank⟩ := head?_trimLeft (htext ▸ List.cons_ne_nil c cs)
    obtain rfl : c = d := by simpa [htext] using hd
    refine ⟨_, htext.trans List.takeWhile_append_dropWhile.symm, rfl, ?_, fun x hx => ?_, ?_⟩
    · rw [List.takeWhile_cons_of_pos (by simp [hblank])]
      exact List.cons_ne_nil _ _
    · simpa using List.all_eq_true.mp List.all_takeWhile x hx
    · intro x hx
      have hhead := List.head?_dropWhile_not (!isBlank ·) (c :: cs)
      rw [Option.mem_def.mp hx] at hhead
      simpa using hhead

/-- A trimmed text is its first word alone, or it goes on behind a blank. -/
theorem trim_eq_of_cutWord {text word rest : List Char} (h : cutWord text = some (word, rest)) :
    (trim text = word ∧ trim rest = []) ∨
      ∃ c more, trim text = word ++ c :: more ∧ isBlank c = true ∧ trim more = trim rest ∧
        trim rest ≠ [] := by
  obtain ⟨tail, htext, rfl, hne, hword, htail⟩ := exists_of_cutWord h
  have htrim : trim text = trimRight (word ++ tail) := by
    rw [← htext]
    rfl
  rw [htrim, trim_trimLeft]
  by_cases hblank : allBlank tail = true
  · -- only the word is left, as it ends with no blank
    obtain ⟨front, last, rfl⟩ : ∃ front last, word = front ++ [last] :=
      ⟨_, _, (List.dropLast_concat_getLast hne).symm⟩
    have hlast : isBlank last = false := hword last (List.mem_append_right _ List.mem_cons_self)
    rw [List.append_assoc, List.singleton_append, trimRight_append_cons hlast,
      trimRight_of_allBlank hblank]
    exact .inl ⟨rfl, trim_of_allBlank hblank⟩
  · rw [Bool.not_eq_true] at hblank
    rw [trimRight_append hblank]
    have hkept := (isTrimmed_trim hblank).ne_nil
    cases hright : trimRight tail with
    | nil =>
      rw [← trim_trimRight, hright] at hkept
      exact absurd rfl hkept
    | cons c more =>
      have hc : isBlank c = true := htail c (head?_trimRight (by rw [hright]; rfl))
      refine .inr ⟨c, more, rfl, hc, ?_, hkept⟩
      rw [← trim_trimRight tail, hright, trim_cons_of_isBlank hc]

/-- To trim a text leaves its first word, and what is behind it apart from blanks. -/
theorem exists_cutWord_trim {text word rest : List Char}
    (h : cutWord text = some (word, rest)) :
    ∃ rest', cutWord (trim text) = some (word, rest') ∧ trim rest' = trim rest := by
  obtain ⟨tail, -, -, hne, hword, -⟩ := exists_of_cutWord h
  rcases trim_eq_of_cutWord h with ⟨htext, hrest⟩ | ⟨c, more, htext, hc, hmore, -⟩
  · have hcut := @cutWord_append word [] hne hword nofun
    rw [List.append_nil] at hcut
    exact ⟨[], by rw [htext, hcut]; rfl, hrest.symm⟩
  · have hcut := @cutWord_append word (c :: more) hne hword (by simpa using hc)
    exact ⟨_, by rw [htext, hcut], by rw [trim_trimLeft, trim_cons_of_isBlank hc, hmore]⟩

/-- A word and what follows it are stretches of the text. -/
theorem infix_of_cutWord (h : cutWord cs = some (front, back)) : front <:+: cs ∧ back <:+: cs := by
  unfold cutWord at h
  split at h
  next => cases h
  next c rest hrest =>
    have hcs : c :: rest <:+: cs := hrest ▸ infix_dropFront isBlank cs
    cases h
    exact ⟨( List.takeWhile_prefix _).isInfix.trans hcs,
      (infix_dropFront isBlank _).trans ((List.dropWhile_suffix _).isInfix.trans hcs)⟩

/-! ## Joining -/

/-- A piece without the separator ends before it. -/
theorem prefix_of_not_mem {c : Char} (h : piece <+: front ++ c :: back) (hc : c ∉ piece) :
    piece <+: front := by
  induction front generalizing piece with
  | nil =>
    rcases List.prefix_cons_iff.mp h with rfl | ⟨rest, rfl, -⟩
    · exact List.nil_prefix
    · exact absurd List.mem_cons_self hc
  | cons d front ih =>
    rcases List.prefix_cons_iff.mp h with rfl | ⟨rest, rfl, hrest⟩
    · exact List.nil_prefix
    · exact (List.prefix_cons_inj d).mpr (ih hrest fun hmem => hc (List.mem_cons_of_mem d hmem))

/-- **A stretch without a character lies on one side of it.** -/
theorem infix_or_infix_of_not_mem {c : Char} (h : piece <:+: front ++ c :: back)
    (hc : c ∉ piece) : piece <:+: front ∨ piece <:+: back := by
  induction front with
  | nil =>
    rcases List.infix_cons_iff.mp h with h | h
    · exact .inl (prefix_of_not_mem (h : piece <+: [] ++ c :: back) hc).isInfix
    · exact .inr h
  | cons d front ih =>
    rcases List.infix_cons_iff.mp h with h | h
    · exact .inl (prefix_of_not_mem h hc).isInfix
    · exact (ih h).imp List.infix_cons id

/-! ## Searching -/

/-- To occur is to be a stretch. -/
theorem occursIn_iff {piece text : List Char} :
    occursIn piece text = true ↔ piece <:+: text := by
  induction text with
  | nil =>
    rw [List.infix_nil, occursIn, cutAtPiece, ← List.isEmpty_iff]
    by_cases hpiece : piece.isEmpty = true <;> simp [hpiece]
  | cons c text ih =>
    rw [List.infix_cons_iff, ← List.isPrefixOf_iff_prefix, ← ih, occursIn, cutAtPiece]
    by_cases hstart : piece.isPrefixOf (c :: text) = true
    · simp [hstart]
    · simp [hstart, occursIn]

theorem contains_iff {s piece : String} :
    contains s piece = true ↔ piece.toList <:+: s.toList :=
  occursIn_iff

end ContainerLint.Text
