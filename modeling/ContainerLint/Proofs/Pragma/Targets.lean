/-
What the pragmas of a build file are about.

A build file is read entry by entry. A comment that is a pragma waits for the next
instruction, together with those that wait already; what is left at the end of the file has no
instruction to be about. Most of this is bookkeeping, and what comes out of it is said here
without it: a code is off on a line if the file is switched off, if the code is listed for the
whole file, or if the line is the first one of an instruction and the code is listed for that
instruction, in a comment right above it or in its own text.

What one pragma adds to what is known is one statement (`adds_applyBody`), and so is what a
queue of them adds. From that the entries are an induction, on the last one of them.

The sign for all codes is heeded in comments only, as no list in the text of an instruction
reaches over it.
-/
import ContainerLint.Proofs.Pragma.Numbering
import ContainerLint.Proofs.Pragma.Trailing
import Mathlib.Data.List.Induction

namespace ContainerLint.Pragmas

open ContainerLint.Text ContainerLint.Dockerfile

/-! ## What a pragma says -/

/-- The pragma switches the file off. -/
def Disables (body : List Char) : Prop :=
  lower (String.ofList (trim body)) = "disable"

/-- The pragma lists a code for the whole file. -/
def ListsForFile (body : List Char) (code : String) : Prop :=
  startsWith (lower (String.ofList (trim body))) "global" = true ∧
    ∃ codes, ignoredCodes? (trim ((trim body).drop 6)) = some codes ∧ code ∈ codes

/-- The pragma lists a code for the next instruction. -/
def ListsForNext (body : List Char) (code : String) : Prop :=
  ∃ codes, ignoredCodes? (trim body) = some codes ∧ code ∈ codes

/-- A list to ignore starts with a letter that is an `i` in lower case, with or without its
dot. -/
theorem exists_lower_of_ignoredCodes? {body : List Char} {codes : List String}
    (h : ignoredCodes? body = some codes) :
    ∃ d ds, lowerFrom [] body = d :: ds ∧ (d = 'i' ∨ d = 'ı') := by
  obtain ⟨list, hlist, -⟩ := Option.map_eq_some_iff.mp h
  obtain ⟨rest, hrest, -⟩ := Option.bind_eq_some_iff.mp hlist
  rw [show "ignore".toList = 'i' :: "gnore".toList from rfl] at hrest
  cases body with
  | nil => cases hrest
  | cons c cs =>
    rw [afterWord] at hrest
    by_cases hfold : foldChar c = 'i'
    -- the letters that match are the plain one of either case and the two of Turkish
    · rcases foldChar_cases c with ⟨hascii, hlower⟩ | ⟨rfl | rfl, -⟩ | ⟨-, hs⟩ | ⟨-, hk⟩ |
        ⟨hwide, hself⟩
      · rw [lowerFrom, if_pos hascii, ← hlower, hfold]
        exact ⟨'i', _, rfl, .inl rfl⟩
      · exact ⟨'i', _, rfl, .inl rfl⟩
      · -- the letter without a dot matches too, and is its own lower case
        have hdotless : lowerWide 'ı' = ['ı'] := by decide +kernel
        rw [lowerFrom, if_neg (by decide), if_neg (by decide), hdotless]
        exact ⟨'ı', _, rfl, .inr rfl⟩
      · exact absurd (hs.symm.trans hfold) (by decide)
      · exact absurd (hk.symm.trans hfold) (by decide)
      · rw [← hself, hfold] at hwide
        exact absurd hwide (by decide)
    · rw [beq_false_of_ne hfold, if_neg Bool.false_ne_true] at hrest
      cases hrest

/-- A list to ignore is neither for the whole file nor does it switch the file off. -/
theorem not_other_of_ignoredCodes? {body : List Char} {codes : List String}
    (h : ignoredCodes? body = some codes) :
    startsWith (lower (String.ofList body)) "global" = false ∧
      lower (String.ofList body) ≠ "disable" := by
  obtain ⟨d, ds, hlower, hd⟩ := exists_lower_of_ignoredCodes? h
  rw [lower, String.toList_ofList, hlower]
  constructor
  · rw [startsWith, String.toList_ofList, String.toList_ofList]
    rcases hd with rfl | rfl <;> rfl
  · intro hdisable
    have hchars := congrArg String.toList hdisable
    rw [String.toList_ofList] at hchars
    have hfirst : d = 'd' := (List.cons.inj hchars).1
    rcases hd with rfl | rfl <;> exact absurd hfirst (by decide)

/-! ## What pragmas add -/

/-- The second state says what the first one says, and besides what is given. -/
structure Adds (p q : Pragmas) (off : Prop) (file : String → Prop) (lines : String → Int → Prop) :
    Prop where
  disabled_iff : q.disabled = true ↔ p.disabled = true ∨ off
  mem_fileCodes_iff : ∀ code, code ∈ q.fileCodes ↔ code ∈ p.fileCodes ∨ file code
  mem_codesAt_iff : ∀ code m, code ∈ q.codesAt m ↔ code ∈ p.codesAt m ∨ lines code m

namespace Adds

variable {p q r : Pragmas} {off : Prop} {file : String → Prop} {lines : String → Int → Prop}
  {codes : List String}

/-- What is the same in all but the shell adds nothing. -/
theorem of_same (hdisabled : q.disabled = p.disabled) (hcodes : q.fileCodes = p.fileCodes)
    (hlineCodes : q.lineCodes = p.lineCodes) (hoff : ¬off) (hfile : ∀ code, ¬file code)
    (hlines : ∀ code m, ¬lines code m) : Adds p q off file lines where
  disabled_iff := by rw [hdisabled, or_iff_left hoff]
  mem_fileCodes_iff code := by rw [hcodes, or_iff_left (hfile code)]
  mem_codesAt_iff code m := by rw [codesAt, hlineCodes, codesAt, or_iff_left (hlines code m)]

theorem ignoreFile (hoff : ¬off) (hfile : ∀ code, file code ↔ code ∈ codes)
    (hlines : ∀ code m, ¬lines code m) : Adds p (p.ignoreFile codes) off file lines where
  disabled_iff := (or_iff_left hoff).symm
  mem_fileCodes_iff code := by rw [Pragmas.ignoreFile, mem_union, hfile]
  mem_codesAt_iff code m := (or_iff_left (hlines code m)).symm

theorem ignoreLine {line : Int} (hoff : ¬off) (hfile : ∀ code, ¬file code)
    (hlines : ∀ code m, lines code m ↔ m = line ∧ code ∈ codes) :
    Adds p (p.ignoreLine line codes) off file lines where
  disabled_iff := (or_iff_left hoff).symm
  mem_fileCodes_iff code := (or_iff_left (hfile code)).symm
  mem_codesAt_iff code m := by rw [mem_codesAt_ignoreLine, hlines]

theorem disable (hoff : off) (hfile : ∀ code, ¬file code) (hlines : ∀ code m, ¬lines code m) :
    Adds p { p with disabled := true } off file lines where
  disabled_iff := iff_of_true rfl (.inr hoff)
  mem_fileCodes_iff code := (or_iff_left (hfile code)).symm
  mem_codesAt_iff code m := (or_iff_left (hlines code m)).symm

/-- What is added may be said in other words. -/
theorem congr {off' : Prop} {file' : String → Prop} {lines' : String → Int → Prop}
    (h : Adds p q off file lines) (hoff : off ↔ off') (hfile : ∀ code, file code ↔ file' code)
    (hlines : ∀ code m, lines code m ↔ lines' code m) : Adds p q off' file' lines' where
  disabled_iff := by rw [h.disabled_iff, hoff]
  mem_fileCodes_iff code := by rw [h.mem_fileCodes_iff, hfile]
  mem_codesAt_iff code m := by rw [h.mem_codesAt_iff, hlines]

/-- What is added in two steps is added. -/
theorem trans {off' : Prop} {file' : String → Prop} {lines' : String → Int → Prop}
    (hpq : Adds p q off file lines) (hqr : Adds q r off' file' lines') :
    Adds p r (off ∨ off') (fun code => file code ∨ file' code)
      (fun code m => lines code m ∨ lines' code m) where
  disabled_iff := by rw [hqr.disabled_iff, hpq.disabled_iff, or_assoc]
  mem_fileCodes_iff code := by rw [hqr.mem_fileCodes_iff, hpq.mem_fileCodes_iff, or_assoc]
  mem_codesAt_iff code m := by rw [hqr.mem_codesAt_iff, hpq.mem_codesAt_iff, or_assoc]

end Adds

/-- **What one pragma adds.** -/
theorem adds_applyBody (p : Pragmas) (target : Option Nat) (body : List Char) :
    Adds p (p.applyBody target body) (Disables body) (ListsForFile body)
      fun code m => (∃ line : Nat, target = some line ∧ m = line) ∧ ListsForNext body code := by
  have hother : ∀ codes, ignoredCodes? (trim body) = some codes →
      startsWith (lower (String.ofList (trim body))) "global" = false ∧ ¬Disables body :=
    fun codes => not_other_of_ignoredCodes?
  unfold applyBody
  dsimp only
  by_cases hglobal : startsWith (lower (String.ofList (trim body))) "global" = true
  · rw [if_pos hglobal]
    have hoff : ¬Disables body := by
      intro hdisable
      rw [hdisable] at hglobal
      exact absurd hglobal (by decide)
    have hnext : ∀ code, ¬ListsForNext body code := by
      rintro code ⟨codes, hcodes, -⟩
      rw [(hother codes hcodes).1] at hglobal
      cases hglobal
    have hfile : ∀ code, ListsForFile body code ↔
        ∃ codes, ignoredCodes? (trim ((trim body).drop 6)) = some codes ∧ code ∈ codes :=
      fun code => and_iff_right hglobal
    split
    next codes hcodes =>
      refine .ignoreFile hoff (fun code => ?_) fun code m h => hnext code h.2
      rw [hfile, hcodes]
      simp only [Option.some.injEq, exists_eq_left']
    next hcodes =>
      refine .of_same rfl rfl rfl hoff (fun code => ?_) fun code m h => hnext code h.2
      rw [hfile, hcodes]
      simp
  · rw [if_neg hglobal]
    have hfile : ∀ code, ¬ListsForFile body code := fun code h => hglobal h.1
    split
    next codes hcodes =>
      have hoff : ¬Disables body := (hother codes hcodes).2
      have hnext : ∀ code, ListsForNext body code ↔ code ∈ codes := by
        intro code
        rw [ListsForNext, hcodes]
        simp only [Option.some.injEq, exists_eq_left']
      cases target with
      | none => exact .of_same rfl rfl rfl hoff hfile (by simp)
      | some line =>
        dsimp only
        split
        next hempty =>
          -- an empty list is as good as none
          refine .of_same rfl rfl rfl hoff hfile fun code m h => ?_
          rw [hnext, List.isEmpty_iff.mp hempty] at h
          exact List.not_mem_nil h.2
        next =>
          refine .ignoreLine hoff hfile fun code m => ?_
          rw [hnext]
          simp only [Option.some.injEq, exists_eq_left']
    next hcodes =>
      have hnext : ∀ code, ¬ListsForNext body code := by
        rintro code ⟨codes, hlist, -⟩
        rw [hcodes] at hlist
        cases hlist
      split
      next hshell =>
        refine .of_same rfl rfl rfl (fun hdisable => ?_) hfile fun code m h => hnext code h.2
        rw [hdisable] at hshell
        exact absurd hshell (by decide)
      next =>
        split
        next hdisable =>
          exact .disable (beq_iff_eq.mp hdisable) hfile fun code m h => hnext code h.2
        next hdisable =>
          refine .of_same rfl rfl rfl (fun h => ?_) hfile fun code m h => hnext code h.2
          exact hdisable (beq_iff_eq.mpr h)

/-- **What a queue of pragmas adds** is what each of them adds. -/
theorem adds_foldl_applyBody (p : Pragmas) (target : Option Nat) (waiting : List (List Char)) :
    Adds p (waiting.foldl (fun p body => p.applyBody target body) p)
      (∃ body ∈ waiting, Disables body) (fun code => ∃ body ∈ waiting, ListsForFile body code)
      fun code m => (∃ line : Nat, target = some line ∧ m = line) ∧
        ∃ body ∈ waiting, ListsForNext body code := by
  induction waiting generalizing p with
  | nil => exact .of_same rfl rfl rfl (by simp) (by simp) (by simp)
  | cons body waiting ih =>
    simp only [List.foldl_cons, List.exists_mem_cons_iff, and_or_left]
    exact (adds_applyBody p target body).trans (ih _)

/-! ## The entries of a file -/

/-- The entry is a comment that is a pragma. -/
def IsPragma (e : Positioned) (body : List Char) : Prop :=
  ∃ text, e.instruction = .comment text ∧ pragmaBody? text = some body

/-- Some pragma of the entries says something. -/
def SomePragma (entries : List Positioned) (q : List Char → Prop) : Prop :=
  ∃ e ∈ entries, ∃ body, IsPragma e body ∧ q body

/-- The comments after the last instruction, last first. -/
def lastComments (entries : List Positioned) : List Positioned :=
  entries.reverse.takeWhile (·.instruction.isComment)

/-- The comments between the entry at a place and the last instruction above it, nearest
first. -/
def commentsAbove (entries : List Positioned) (i : Nat) : List Positioned :=
  lastComments (entries.take i)

/-- The line is the first one of an instruction, and the code is listed for it in a comment
between the instruction before it and itself, or in its own text by the given lists. -/
def ListedForLine (trailing : String → String → Prop) (entries : List Positioned) (code : String)
    (m : Int) : Prop :=
  ∃ (i : Nat) (e : Positioned), entries[i]? = some e ∧ e.instruction.isComment = false ∧
    m = e.line ∧
    (SomePragma (commentsAbove entries i) (ListsForNext · code) ∨ trailing e.source code)

section Entries

variable {entries : List Positioned} {e : Positioned} {q : List Char → Prop}
  {trailing : String → String → Prop} {code : String} {m : Int}

/-- A comment of a longer list is one of the list or the new one. -/
theorem somePragma_concat :
    SomePragma (entries ++ [e]) q ↔
      SomePragma entries q ∨ ∃ body, IsPragma e body ∧ q body := by
  simp only [SomePragma, List.mem_append, List.mem_singleton, or_and_right, exists_or,
    exists_eq_left]

theorem not_isPragma (h : e.instruction.isComment = false) (body : List Char) :
    ¬IsPragma e body := by
  rintro ⟨text, htext, -⟩
  rw [htext] at h
  cases h

/-- A comment joins those that wait. -/
theorem lastComments_concat_comment (h : e.instruction.isComment = true) :
    lastComments (entries ++ [e]) = e :: lastComments entries := by
  simp [lastComments, h]

/-- An instruction ends the waiting. -/
theorem lastComments_concat_instruction (h : e.instruction.isComment = false) :
    lastComments (entries ++ [e]) = [] := by
  simp [lastComments, h]

theorem isComment_iff : e.instruction.isComment = true ↔ ∃ text, e.instruction = .comment text := by
  cases e.instruction <;> simp [Instruction.isComment]

/-- One more entry may list codes for its own line, and changes nothing above it. -/
theorem listedForLine_concat :
    ListedForLine trailing (entries ++ [e]) code m ↔
      ListedForLine trailing entries code m ∨
        e.instruction.isComment = false ∧ m = e.line ∧
          (SomePragma (lastComments entries) (ListsForNext · code) ∨ trailing e.source code) := by
  have hlast : (entries ++ [e])[entries.length]? = some e := by simp
  have habove : ∀ i ≤ entries.length,
      commentsAbove (entries ++ [e]) i = commentsAbove entries i := by
    intro i hi
    rw [commentsAbove, List.take_append_of_le_length hi, commentsAbove]
  have hall : commentsAbove entries entries.length = lastComments entries := by
    rw [commentsAbove, List.take_length]
  constructor
  · rintro ⟨i, e', hi, hinstruction, hm, hlists⟩
    -- the instruction is an old one, the new one, or beyond the end
    rcases Nat.lt_trichotomy i entries.length with hlt | rfl | hgt
    · rw [List.getElem?_append_left hlt] at hi
      rw [habove i (Nat.le_of_lt hlt)] at hlists
      exact .inl ⟨i, e', hi, hinstruction, hm, hlists⟩
    · rw [hlast] at hi
      obtain rfl : e = e' := Option.some.inj hi
      rw [habove _ (Nat.le_refl _), hall] at hlists
      exact .inr ⟨hinstruction, hm, hlists⟩
    · have hbeyond : (entries ++ [e]).length ≤ i := by simpa using Nat.succ_le_of_lt hgt
      rw [List.getElem?_eq_none hbeyond] at hi
      cases hi
  · rintro (⟨i, e', hi, hinstruction, hm, hlists⟩ | ⟨hinstruction, hm, hlists⟩)
    · have hlt := (List.getElem?_eq_some_iff.mp hi).1
      refine ⟨i, e', ?_, hinstruction, hm, ?_⟩
      · rw [List.getElem?_append_left hlt, hi]
      · rwa [habove i (Nat.le_of_lt hlt)]
    · refine ⟨entries.length, e, hlast, hinstruction, hm, ?_⟩
      rwa [habove _ (Nat.le_refl _), hall]

end Entries

/-- What has been read of a file, and the pragmas that wait, say what its entries say. -/
structure HasRead (entries : List Positioned) (p : Pragmas) (waiting : List (List Char)) : Prop where
  disabled_iff : (p.disabled = true ∨ ∃ body ∈ waiting, Disables body) ↔
    SomePragma entries Disables
  mem_fileCodes_iff : ∀ code, (code ∈ p.fileCodes ∨ ∃ body ∈ waiting, ListsForFile body code) ↔
    SomePragma entries (ListsForFile · code)
  mem_codesAt_iff : ∀ code m, code ∈ p.codesAt m ↔
    ListedForLine (TrailingLists isCodeListChar) entries code m
  mem_waiting_iff : ∀ body, body ∈ waiting ↔
    ∃ e ∈ lastComments entries, IsPragma e body

/-- The lists in the text of an instruction are those that are read. -/
theorem trailingLists_iff {source code : String} :
    TrailingLists isCodeListChar source code ↔
      ∃ codes, trailingCodes? source.toList = some codes ∧ code ∈ codes := by
  simp only [TrailingLists, trailingCodes?_eq_some_iff]
  constructor
  · rintro ⟨list, hlist, hcode⟩
    exact ⟨splitCodes list, ⟨list, hlist, rfl⟩, hcode⟩
  · rintro ⟨codes, ⟨list, hlist, rfl⟩, hcode⟩
    exact ⟨list, hlist, hcode⟩

section Reading

variable {entries : List Positioned} {e : Positioned} {p : Pragmas} {waiting : List (List Char)}

/-- Reading a comment only puts it in the queue. -/
theorem readEntry_of_comment {text : String} (h : e.instruction = .comment text) :
    readEntry (p, waiting) e = (p, waiting ++ (pragmaBody? text).toList) := by
  unfold readEntry
  rw [h]
  dsimp only
  cases pragmaBody? text with
  | none => rw [Option.toList_none, List.append_nil]
  | some body => rfl

/-- An instruction takes the pragmas that wait, and what its own text lists. -/
theorem readEntry_of_instruction (h : e.instruction.isComment = false) :
    ∃ q, readEntry (p, waiting) e = (q, []) ∧
      Adds p q (∃ body ∈ waiting, Disables body)
        (fun code => ∃ body ∈ waiting, ListsForFile body code)
        fun code m => m = e.line ∧
          ((∃ body ∈ waiting, ListsForNext body code) ∨
            TrailingLists isCodeListChar e.source code) := by
  -- first what waited for this line, then what stands at its end
  have hqueue := adds_foldl_applyBody p (some e.line) waiting
  simp only [Option.some.injEq, exists_eq_left'] at hqueue
  unfold readEntry
  dsimp only
  split
  next text htext =>
    rw [htext] at h
    cases h
  next =>
    split
    next codes hcodes =>
      have hown : ∀ q : Pragmas, Adds q (q.ignoreLine e.line codes) False (fun _ => False)
          fun code m => m = e.line ∧ code ∈ codes :=
        fun q => .ignoreLine id (fun _ => id) fun _ _ => Iff.rfl
      refine ⟨_, rfl, (hqueue.trans (hown _)).congr (or_iff_left id) (fun _ => or_iff_left id) ?_⟩
      intro code m
      simp only [trailingLists_iff, hcodes, Option.some.injEq, exists_eq_left', and_or_left]
    next hcodes =>
      refine ⟨_, rfl, hqueue.congr Iff.rfl (fun _ => Iff.rfl) fun code m => ?_⟩
      simp [trailingLists_iff, hcodes]

theorem isPragma_iff {text : String} (he : e.instruction = .comment text) {body : List Char} :
    IsPragma e body ↔ body ∈ (pragmaBody? text).toList := by
  simp [IsPragma, he]

/-- What some pragma that waits says is what a comment after the last instruction says. -/
theorem HasRead.exists_waiting_iff (h : HasRead entries p waiting) (q : List Char → Prop) :
    (∃ body ∈ waiting, q body) ↔
      SomePragma (lastComments entries) q := by
  simp only [h.mem_waiting_iff, SomePragma]
  constructor
  · rintro ⟨body, ⟨e, he, hbody⟩, hq⟩
    exact ⟨e, he, body, hbody, hq⟩
  · rintro ⟨e, he, body, hbody, hq⟩
    exact ⟨body, ⟨e, he, hbody⟩, hq⟩

/-- A comment joins those that wait. -/
theorem HasRead.comment (h : HasRead entries p waiting) {text : String}
    (he : e.instruction = .comment text) :
    HasRead (entries ++ [e]) p (waiting ++ (pragmaBody? text).toList) := by
  have hcomment : e.instruction.isComment = true := isComment_iff.mpr ⟨text, he⟩
  have hwaiting : ∀ q : List Char → Prop,
      (∃ body ∈ waiting ++ (pragmaBody? text).toList, q body) ↔
        (∃ body ∈ waiting, q body) ∨ ∃ body, IsPragma e body ∧ q body := by
    intro q
    simp only [isPragma_iff he, List.mem_append, or_and_right, exists_or]
  refine ⟨?_, fun code => ?_, fun code m => ?_, fun body => ?_⟩
  · rw [hwaiting, ← or_assoc, h.disabled_iff, somePragma_concat]
  · rw [hwaiting, ← or_assoc, h.mem_fileCodes_iff, somePragma_concat]
  · rw [h.mem_codesAt_iff, listedForLine_concat, hcomment]
    simp
  · rw [lastComments_concat_comment hcomment, List.exists_mem_cons_iff, List.mem_append,
      h.mem_waiting_iff, isPragma_iff he, or_comm]

/-- An instruction leaves none waiting. -/
theorem HasRead.instruction (h : HasRead entries p waiting) (he : e.instruction.isComment = false)
    {q : Pragmas}
    (hadds : Adds p q (∃ body ∈ waiting, Disables body)
      (fun code => ∃ body ∈ waiting, ListsForFile body code)
      fun code m => m = e.line ∧ ((∃ body ∈ waiting, ListsForNext body code) ∨
        TrailingLists isCodeListChar e.source code)) :
    HasRead (entries ++ [e]) q [] := by
  have hno : ∀ r : List Char → Prop, ¬∃ body, IsPragma e body ∧ r body :=
    fun r ⟨body, hbody, _⟩ => not_isPragma he body hbody
  have hnone : ∀ r : List Char → Prop, ¬∃ body ∈ [], r body := by simp
  refine ⟨?_, fun code => ?_, fun code m => ?_, fun body => ?_⟩
  · rw [or_iff_left (hnone _), hadds.disabled_iff, h.disabled_iff, somePragma_concat,
      or_iff_left (hno _)]
  · rw [or_iff_left (hnone _), hadds.mem_fileCodes_iff, h.mem_fileCodes_iff, somePragma_concat,
      or_iff_left (hno _)]
  · rw [hadds.mem_codesAt_iff, h.mem_codesAt_iff, listedForLine_concat, h.exists_waiting_iff,
      and_iff_right he]
  · rw [lastComments_concat_instruction he]
    simp

/-- Nothing read is nothing silenced. -/
theorem hasRead_nil : HasRead [] Pragmas.none [] where
  disabled_iff := by simp [SomePragma, Pragmas.none]
  mem_fileCodes_iff := by simp [SomePragma, Pragmas.none]
  mem_codesAt_iff := by simp [ListedForLine, Pragmas.none, codesAt]
  mem_waiting_iff := by simp [lastComments]

/-- **What is known after some entries is what they say.** The induction is on the last entry,
as an instruction looks back at the comments above it. -/
theorem hasRead_foldl (entries : List Positioned) :
    HasRead entries (entries.foldl readEntry (Pragmas.none, [])).1
      (entries.foldl readEntry (Pragmas.none, [])).2 := by
  induction entries using List.reverseRecOn with
  | nil => exact hasRead_nil
  | append_singleton entries e ih =>
    rw [List.foldl_append, List.foldl_cons, List.foldl_nil]
    cases hcomment : e.instruction.isComment with
    | true =>
      obtain ⟨text, htext⟩ := isComment_iff.mp hcomment
      rw [readEntry_of_comment htext]
      exact ih.comment htext
    | false =>
      obtain ⟨q, hq, hadds⟩ := readEntry_of_instruction hcomment
      rw [hq]
      exact ih.instruction hcomment hadds

end Reading

/-! ## Which codes are off -/

/-- The code is off on the line: the file is switched off, or the code or the sign for all codes
is listed, for the file or for that line. -/
def IsTargeted (trailing : String → String → Prop) (entries : List Positioned) (code : String)
    (line : Int) : Prop :=
  SomePragma entries Disables ∨ ∃ named, (named = code ∨ named = wildcard) ∧
    (SomePragma entries (ListsForFile · named) ∨ ListedForLine trailing entries named line)

/-- A code is covered by itself or by the wildcard. -/
theorem covers_iff_exists {codes : List String} {code : String} :
    covers codes code = true ↔ ∃ named, (named = code ∨ named = wildcard) ∧ named ∈ codes := by
  simp only [covers_iff, or_and_right, exists_or, exists_eq_left]

/-- **A build file leaves out what its pragmas are about**, a list in the text of an instruction
being one without the sign for all codes. -/
theorem ignores_ofDockerfile_iff (entries : List Positioned) (code : String) (line : Int) :
    (ofDockerfile entries).ignores code line = true ↔
      IsTargeted (TrailingLists isCodeListChar) entries code line := by
  have hread := hasRead_foldl entries
  -- what waits at the end of the file has no line
  have hlast : Adds (entries.foldl readEntry (Pragmas.none, [])).1 (ofDockerfile entries) _ _
      fun _ _ => False :=
    (adds_foldl_applyBody _ Option.none _).congr Iff.rfl (fun _ => Iff.rfl) (by simp)
  rw [ignores_iff, covers_iff_exists, covers_iff_exists, hlast.disabled_iff, hread.disabled_iff,
    IsTargeted, ← exists_or]
  refine or_congr_right (exists_congr fun named => ?_)
  rw [← and_or_left, hlast.mem_fileCodes_iff, hread.mem_fileCodes_iff, hlast.mem_codesAt_iff,
    or_false, hread.mem_codesAt_iff]

/-- Lists that are the same for the instructions of a file list the same for its lines. -/
theorem listedForLine_congr {trailing trailing' : String → String → Prop}
    {entries : List Positioned} {code : String} {m : Int}
    (h : ∀ e ∈ entries, e.instruction.isComment = false →
      (trailing e.source code ↔ trailing' e.source code)) :
    ListedForLine trailing entries code m ↔ ListedForLine trailing' entries code m := by
  refine exists_congr fun i => exists_congr fun e => and_congr_right fun hi => ?_
  refine and_congr_right fun hinstruction => and_congr_right fun hm => or_congr_right ?_
  exact h e (List.mem_of_getElem? hi) hinstruction

/-- **Which codes are off on which lines.** A code is off exactly if a pragma switches the file
off, lists the code or the sign for all codes for the file, or lists one of them for the
instruction that starts on the line. The last may happen in a comment between the instruction
before it and itself, or in the first list of its own text, but there the sign for all codes is
never heeded. So the signs for all codes are all heeded in a file whose instructions have none in
their first lists. -/
theorem targets_of_entries (entries : List Positioned) :
    (∀ code line, (ofDockerfile entries).ignores code line = true ↔
      IsTargeted (TrailingLists isCodeListChar) entries code line) ∧
    (∀ source, ¬TrailingLists isCodeListChar source wildcard) ∧
    (∀ source, (∀ code, TrailingLists isStarredListChar source code ↔
      TrailingLists isCodeListChar source code) ↔ ¬HasStar source) ∧
    ((∀ e ∈ entries, e.instruction.isComment = false → ¬HasStar e.source) →
      ∀ code line, (ofDockerfile entries).ignores code line = true ↔
        IsTargeted (TrailingLists isStarredListChar) entries code line) := by
  refine ⟨ignores_ofDockerfile_iff entries, fun source hlists => ?_,
    trailingLists_isStarredListChar_iff, fun hno code line => ?_⟩
  · exact star_not_mem_of_trailingLists hlists (by decide)
  · have hsame : ∀ named, ListedForLine (TrailingLists isCodeListChar) entries named line ↔
        ListedForLine (TrailingLists isStarredListChar) entries named line := by
      intro named
      refine listedForLine_congr fun e he hinstruction => Iff.symm ?_
      exact (trailingLists_isStarredListChar_iff e.source).mpr (hno e he hinstruction) named
    rw [ignores_ofDockerfile_iff]
    simp only [IsTargeted, hsame]

/-- An instruction with the sign for all codes at its end. -/
def starredRun : String := "RUN sudo x # hadolint ignore=*\n"

/-- The sign for all codes is listed for the instruction, and no code is off. -/
theorem ignores_starredRun :
    ∃ entries, parse starredRun = .ok entries ∧
      IsTargeted (TrailingLists isStarredListChar) entries "DL3004" 1 ∧
      (ofDockerfile entries).ignores "DL3004" 1 = false := by
  refine ⟨[⟨.run (.shell "sudo x # hadolint ignore=*") {}, 1, "RUN sudo x # hadolint ignore=*"⟩],
    by decide +kernel, .inr ⟨wildcard, .inr rfl, .inr ⟨0, _, rfl, rfl, rfl, .inr ?_⟩⟩,
    by decide +kernel⟩
  have hlist : IsFirstList isStarredListChar
      ("RUN sudo x ".toList ++ '#' :: " hadolint ignore=*".toList) ['*'] :=
    isFirstList_of_not_mem (by decide) (by decide +kernel)
  exact ⟨['*'], hlist, by decide⟩

end ContainerLint.Pragmas
