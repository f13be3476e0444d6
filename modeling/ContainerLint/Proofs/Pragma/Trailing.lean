/-
Lists of codes in the text of an instruction.

A build file may name the codes to leave out for an instruction at the end of the instruction
itself, behind a number sign. The text is searched for the first pragma that has a list, and a
list runs as far as its characters are letters, digits, underscores, commas and blanks.

The sign for all codes is none of these characters. What difference that makes is said by
comparing two readings of a text, which are one definition with a class of characters: the
lists as they are read, and the lists with the sign. They agree exactly on the texts whose
first list has no such sign, and no code that is read has one in it.
-/
import ContainerLint.Pragma.Dockerfile
import ContainerLint.Proofs.Dockerfile.ScriptHeader

namespace ContainerLint.Text

/-- What a character matches, whatever its case. -/
theorem foldChar_cases (c : Char) :
    (c.toNat < 128 ∧ foldChar c = c.toLower) ∨ ((c = 'İ' ∨ c = 'ı') ∧ foldChar c = 'i') ∨
      (c = 'ſ' ∧ foldChar c = 's') ∨ (c = Char.ofNat 8490 ∧ foldChar c = 'k') ∨
        (128 ≤ c.toNat ∧ foldChar c = c) := by
  have hchar : ∀ d : Char, c.toNat = d.toNat → c = d := fun d => Char.toNat_inj.mp
  by_cases hascii : c.toNat < 128
  · exact .inl ⟨hascii, if_pos hascii⟩
  by_cases hturkish : c = 'İ' ∨ c = 'ı'
  · rcases hturkish with rfl | rfl
    · exact .inr (.inl ⟨.inl rfl, rfl⟩)
    · exact .inr (.inl ⟨.inr rfl, rfl⟩)
  by_cases hs : c = 'ſ'
  · subst hs
    exact .inr (.inr (.inl ⟨rfl, rfl⟩))
  by_cases hk : c = Char.ofNat 8490
  · subst hk
    exact .inr (.inr (.inr (.inl ⟨rfl, rfl⟩)))
  -- every other character matches itself only
  refine .inr (.inr (.inr (.inr ⟨Nat.le_of_not_lt hascii, ?_⟩)))
  have hturkish' : ¬(c.toNat == 304 || c.toNat == 305) = true := by
    rw [Bool.or_eq_true, beq_iff_eq, beq_iff_eq]
    exact fun h => hturkish (h.imp (hchar 'İ') (hchar 'ı'))
  have hs' : ¬(c.toNat == 383) = true := fun h => hs (hchar 'ſ' (beq_iff_eq.mp h))
  have hk' : ¬(c.toNat == 8490) = true := fun h => hk (hchar (Char.ofNat 8490) (beq_iff_eq.mp h))
  rw [foldChar, if_neg hascii, if_neg hturkish', if_neg hs', if_neg hk']

theorem toNat_lt_of_isAlphanum {c : Char} (h : c.isAlphanum = true) : c.toNat < 128 := by
  have hcases : ((c.isUpper || c.isLower) || c.isDigit) = true := h
  rw [Bool.or_eq_true, Bool.or_eq_true] at hcases
  rcases hcases with (hupper | hlower) | hdigit
  · have hle : c.toNat ≤ 90 := (of_decide_eq_true hupper).2
    omega
  · have hle : c.toNat ≤ 122 := of_decide_eq_true (Bool.and_eq_true_iff.mp hlower).2
    omega
  · have hle : c.toNat ≤ 57 := of_decide_eq_true (Bool.and_eq_true_iff.mp hdigit).2
    omega

end ContainerLint.Text

namespace ContainerLint.Pragmas

open ContainerLint.Text

/-! ## Lists in the text of an instruction -/

/-- What follows the equals sign of a pragma at a number sign. -/
def trailingRest? (cs : List Char) : Option (List Char) := do
  let rest ← afterAnyWord toolWords (trimLeft cs)
  let word := trimLeft rest
  if word.length == rest.length then Option.none
  else
    let rest ← afterWord "ignore".toList word
    if (trimLeft rest).head? = some '=' then some (trimLeft rest).tail else Option.none

/-- The list of a pragma at a number sign, of characters of a class, if it has one. -/
def listAt? (isListChar : Char → Bool) (cs : List Char) : Option (List Char) :=
  ((trailingRest? cs).map (·.takeWhile isListChar)).filter (!·.isEmpty)

/-- The text is the list of the first pragma in another that has one. -/
def IsFirstList (isListChar : Char → Bool) (source list : List Char) : Prop :=
  ∃ front rest, source = front ++ '#' :: rest ∧ listAt? isListChar rest = some list ∧
    ∀ front' rest', source = front' ++ '#' :: rest' → front'.length < front.length →
      listAt? isListChar rest' = Option.none

/-- The first pragma in the text of an instruction lists a code. -/
def TrailingLists (isListChar : Char → Bool) (source code : String) : Prop :=
  ∃ list, IsFirstList isListChar source.toList list ∧ code ∈ splitCodes list

section Trailing

variable {isListChar : Char → Bool} {source list rest : List Char} {c : Char} {code : String}

/-- The reader takes the list that its pattern names. -/
theorem trailingAt?_eq (cs : List Char) :
    trailingAt? cs = (listAt? isCodeListChar cs).map splitCodes := by
  unfold trailingAt? listAt? trailingRest?
  cases afterAnyWord toolWords (trimLeft cs) with
  | none => rfl
  | some rest =>
    simp only [Option.bind_eq_bind, Option.bind_some]
    split
    · rfl
    · cases afterWord "ignore".toList (trimLeft rest) with
      | none => rfl
      | some after =>
        simp only [Option.bind_some]
        split
        next list hlist =>
          rw [hlist, List.head?_cons, if_pos rfl, List.tail_cons]
          by_cases hempty : list.takeWhile isCodeListChar = []
          · simp [hempty, Option.filter_some]
          · simp [hempty, Option.filter_some]
        next hnone =>
          have hhead : ¬(trimLeft after).head? = some '=' := by
            intro hhead
            obtain ⟨list, hlist⟩ := List.head?_eq_some_iff.mp hhead
            exact hnone list hlist
          rw [if_neg hhead]
          rfl

/-- A list at the first number sign is the first list. -/
theorem isFirstList_cons_of_some (h : listAt? isListChar rest = some list) {first : List Char} :
    IsFirstList isListChar ('#' :: rest) first ↔ first = list := by
  constructor
  · rintro ⟨front, rest', heq, hfirst, hnone⟩
    cases front with
    | nil =>
      rw [← (List.cons.inj heq).2, h] at hfirst
      exact (Option.some.inj hfirst).symm
    | cons d front =>
      have hnot := hnone [] rest rfl (by simp)
      rw [h] at hnot
      cases hnot
  · rintro rfl
    exact ⟨[], rest, rfl, h, fun front' rest' _ hlt => absurd hlt (Nat.not_lt_zero _)⟩

/-- A character at which no list starts is passed over. -/
theorem isFirstList_cons_of_none (h : c = '#' → listAt? isListChar source = Option.none) :
    IsFirstList isListChar (c :: source) list ↔ IsFirstList isListChar source list := by
  constructor
  · rintro ⟨front, rest, heq, hlist, hnone⟩
    cases front with
    | nil =>
      obtain ⟨hc, rfl⟩ := List.cons.inj heq
      rw [h hc] at hlist
      cases hlist
    | cons d front =>
      obtain ⟨rfl, rfl⟩ := List.cons.inj heq
      refine ⟨front, rest, rfl, hlist, fun front' rest' heq' hlt => ?_⟩
      refine hnone (c :: front') rest' ?_ (Nat.succ_lt_succ hlt)
      rw [List.cons_append, ← heq']
  · rintro ⟨front, rest, rfl, hlist, hnone⟩
    refine ⟨c :: front, rest, rfl, hlist, fun front' rest' heq hlt => ?_⟩
    cases front' with
    | nil =>
      obtain ⟨hc, hrest⟩ := List.cons.inj heq
      rw [← hrest]
      exact h hc
    | cons d front' =>
      exact hnone front' rest' (List.cons.inj heq).2 (Nat.lt_of_succ_lt_succ hlt)

theorem not_isFirstList_nil : ¬IsFirstList isListChar [] list := by
  rintro ⟨front, rest, heq, -⟩
  simp at heq

/-- A list at the first number sign of a text is the first list. -/
theorem isFirstList_of_not_mem {front : List Char} (hfront : '#' ∉ front)
    (h : listAt? isListChar rest = some list) :
    IsFirstList isListChar (front ++ '#' :: rest) list := by
  induction front with
  | nil => exact (isFirstList_cons_of_some h).mpr rfl
  | cons c front ih =>
    rw [List.mem_cons, not_or] at hfront
    exact (isFirstList_cons_of_none fun hc => absurd hc.symm hfront.1).mpr (ih hfront.2)

/-- **The codes in the text of an instruction** are those of its first list. -/
theorem trailingCodes?_eq_some_iff {codes : List String} :
    trailingCodes? source = some codes ↔
      ∃ list, IsFirstList isCodeListChar source list ∧ splitCodes list = codes := by
  induction source with
  | nil =>
    refine iff_of_false (by simp [trailingCodes?]) ?_
    rintro ⟨list, hlist, -⟩
    exact not_isFirstList_nil hlist
  | cons c source ih =>
    rw [trailingCodes?]
    by_cases hc : c = '#'
    · rw [hc, beq_self_eq_true, if_pos rfl, trailingAt?_eq]
      cases hlist : listAt? isCodeListChar source with
      | none =>
        simp only [isFirstList_cons_of_none fun _ => hlist]
        exact ih
      | some list =>
        simp only [isFirstList_cons_of_some hlist, exists_eq_left]
        exact Option.some_inj
    · rw [beq_false_of_ne hc, if_neg Bool.false_ne_true]
      simp only [isFirstList_cons_of_none fun h => absurd h hc]
      exact ih

end Trailing

/-! ## The sign for all codes -/

/-- A character of a list of codes, the sign for all codes included. -/
def isStarredListChar (c : Char) : Bool :=
  isCodeListChar c || c == '*'

/-- The first list in the text, if the sign for all codes belongs to lists, has that sign. -/
def HasStar (source : String) : Prop :=
  ∃ list, IsFirstList isStarredListChar source.toList list ∧ '*' ∈ list

/-- A character of a list has no sign for all codes in its upper case. -/
theorem star_not_mem_upperChar {c : Char} (h : isCodeListChar c = true) : '*' ∉ upperChar c := by
  have hascii : ∀ n < 128, isCodeListChar (Char.ofNat n) = true →
      '*' ∉ upperChar (Char.ofNat n) := by decide +kernel
  by_cases hsmall : c.toNat < 128
  · have hc := hascii c.toNat hsmall
    rw [Char.ofNat_toNat] at hc
    exact hc h
  -- above ASCII there are blanks, and the four letters that match one of its letters
  unfold isCodeListChar at h
  simp only [Bool.or_eq_true, beq_iff_eq] at h
  rcases h with ((hblank | rfl) | rfl) | halnum
  · rw [upperChar_of_isBlank hblank, List.mem_singleton]
    rintro rfl
    exact hsmall (by decide)
  · exact absurd (by decide) hsmall
  · exact absurd (by decide) hsmall
  · rcases foldChar_cases c with ⟨hlt, -⟩ | ⟨rfl | rfl, -⟩ | ⟨rfl, -⟩ | ⟨rfl, -⟩ | ⟨-, hself⟩
    · exact absurd hlt hsmall
    · decide +kernel
    · decide +kernel
    · decide +kernel
    · decide +kernel
    · rw [hself] at halnum
      exact absurd (toNat_lt_of_isAlphanum halnum) hsmall

/-- The codes of a list have the sign for all codes only if the list has it. -/
theorem star_not_mem_of_mem_splitCodes {list : List Char} {code : String}
    (h : ∀ c ∈ list, isCodeListChar c = true) (hcode : code ∈ splitCodes list) :
    '*' ∉ code.toList := by
  obtain ⟨word, hword, rfl⟩ := List.mem_map.mp hcode
  have hpiece := (arePieces_splitBy _ list).infix_of_mem (List.mem_filter.mp hword).1
  rw [upper, String.toList_ofList, String.toList_ofList, List.mem_flatMap]
  rintro ⟨c, hc, hstar⟩
  exact star_not_mem_upperChar (h c (hpiece.subset hc)) hstar

/-- A list with the sign has a code with it. -/
theorem exists_code_of_star_mem {list : List Char} (h : '*' ∈ list) :
    ∃ code ∈ splitCodes list, '*' ∈ code.toList := by
  obtain ⟨word, hword, hstar⟩ :=
    exists_mem_splitBy_of_mem (p := fun c => c == ',' || isBlank c) h (by decide)
  refine ⟨upper (String.ofList word),
    List.mem_map.mpr ⟨word, List.mem_filter.mpr ⟨hword, ?_⟩, rfl⟩, ?_⟩
  · cases word with
    | nil => cases hstar
    | cons c word => rfl
  · rw [upper, String.toList_ofList, String.toList_ofList, List.mem_flatMap]
    exact ⟨'*', hstar, by decide⟩

section Star

variable {source list rest : List Char} {code : String}

/-- The characters of a first list are of the class. -/
theorem IsFirstList.of_mem {isListChar : Char → Bool} (h : IsFirstList isListChar source list) :
    ∀ c ∈ list, isListChar c = true := by
  obtain ⟨front, rest, -, hlist, -⟩ := h
  obtain ⟨hsome, -⟩ := Option.filter_eq_some_iff.mp hlist
  obtain ⟨text, -, rfl⟩ := Option.map_eq_some_iff.mp hsome
  exact fun c hc => List.all_eq_true.mp List.all_takeWhile c hc

/-- **No code that is read from the text of an instruction has the sign for all codes in it.** -/
theorem star_not_mem_of_trailingLists {source code : String}
    (h : TrailingLists isCodeListChar source code) : '*' ∉ code.toList := by
  obtain ⟨list, hlist, hcode⟩ := h
  exact star_not_mem_of_mem_splitCodes hlist.of_mem hcode

/-- Without a star both kinds of list are the same. -/
theorem takeWhile_isStarredListChar (h : '*' ∉ rest.takeWhile isStarredListChar) :
    rest.takeWhile isStarredListChar = rest.takeWhile isCodeListChar := by
  induction rest with
  | nil => rfl
  | cons c rest ih =>
    by_cases hc : isCodeListChar c = true
    · have hstarred : isStarredListChar c = true := by rw [isStarredListChar, hc, Bool.true_or]
      rw [List.takeWhile_cons_of_pos hstarred] at h ⊢
      rw [List.takeWhile_cons_of_pos hc, ih fun hmem => h (List.mem_cons_of_mem _ hmem)]
    · by_cases hstar : c = '*'
      · subst hstar
        rw [List.takeWhile_cons_of_pos (by decide)] at h
        exact absurd List.mem_cons_self h
      · have hstarred : ¬isStarredListChar c = true := by
          rw [isStarredListChar, Bool.or_eq_true, beq_iff_eq]
          exact not_or.mpr ⟨hc, hstar⟩
        rw [List.takeWhile_cons_of_neg hstarred, List.takeWhile_cons_of_neg hc]

/-- A list without the sign is the same in both readings, and so is no list. -/
theorem listAt?_isStarredListChar
    (h : ∀ list, listAt? isStarredListChar rest = some list → '*' ∉ list) :
    listAt? isStarredListChar rest = listAt? isCodeListChar rest := by
  unfold listAt? at h ⊢
  cases hrest : trailingRest? rest with
  | none => rfl
  | some text =>
    rw [hrest] at h
    have hstar : '*' ∉ text.takeWhile isStarredListChar := by
      intro hmem
      refine h (text.takeWhile isStarredListChar) ?_ hmem
      exact Option.filter_eq_some_iff.mpr ⟨rfl, by simpa using List.ne_nil_of_mem hmem⟩
    rw [Option.map_some, Option.map_some, takeWhile_isStarredListChar hstar]

/-- A text without the sign in its first list has that list in both readings. -/
theorem isFirstList_isStarredListChar_iff
    (h : ∀ list, IsFirstList isStarredListChar source list → '*' ∉ list) :
    IsFirstList isStarredListChar source list ↔ IsFirstList isCodeListChar source list := by
  induction source with
  | nil => exact iff_of_false not_isFirstList_nil not_isFirstList_nil
  | cons c source ih =>
    by_cases hat : c = '#' ∧ (listAt? isStarredListChar source).isSome = true
    · -- the list that starts here is the first one, and as it has no sign it is read
      obtain ⟨rfl, hsome⟩ := hat
      obtain ⟨own, hown⟩ := Option.isSome_iff_exists.mp hsome
      have hplain : listAt? isCodeListChar source = some own := by
        rw [← listAt?_isStarredListChar, hown]
        intro list hlist
        exact h list ((isFirstList_cons_of_some hown).mpr (Option.some.inj (hlist.symm.trans hown)))
      rw [isFirstList_cons_of_some hown, isFirstList_cons_of_some hplain]
    · -- no list starts here in either reading
      have hstarred : c = '#' → listAt? isStarredListChar source = Option.none := by
        intro hc
        rw [not_and, Bool.not_eq_true, Option.isSome_eq_false_iff, Option.isNone_iff_eq_none] at hat
        exact hat hc
      have hplain : c = '#' → listAt? isCodeListChar source = Option.none := by
        intro hc
        rw [← listAt?_isStarredListChar, hstarred hc]
        rw [hstarred hc]
        intro list hlist
        cases hlist
      simp only [isFirstList_cons_of_none hstarred] at h ⊢
      rw [isFirstList_cons_of_none hplain]
      exact ih h

/-- **The two readings of a text agree exactly if its first list has no sign for all codes.** -/
theorem trailingLists_isStarredListChar_iff (source : String) :
    (∀ code, TrailingLists isStarredListChar source code ↔
      TrailingLists isCodeListChar source code) ↔ ¬HasStar source := by
  constructor
  · rintro hsame ⟨list, hlist, hstar⟩
    obtain ⟨code, hcode, hmem⟩ := exists_code_of_star_mem hstar
    exact star_not_mem_of_trailingLists ((hsame code).mp ⟨list, hlist, hcode⟩) hmem
  · intro hno code
    have hnone : ∀ list, IsFirstList isStarredListChar source.toList list → '*' ∉ list :=
      fun list hlist hstar => hno ⟨list, hlist, hstar⟩
    simp only [TrailingLists, isFirstList_isStarredListChar_iff hnone]

end Star

end ContainerLint.Pragmas
