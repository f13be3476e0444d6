/-
What united pragmas switch off.

Pragmas hold sets: the codes that are off in a file, and line by line the codes that are
off there. The sets are lists, and only what is in them counts. Uniting two states unites
the sets, so that a code is off under the united state exactly if it is off under one of
the two. A state in which each line stands once is asked for on the right, where the
entries are gone through one by one; on the left a line is looked up, and the first entry
for it is the one that counts.
-/
import ContainerLint.Pragma.State
import ContainerLint.Proofs.Result
import Mathlib.Data.List.Nodup

namespace ContainerLint.Pragmas

/-! ## Sets of codes -/

theorem mem_union {codes more : List String} {c : String} :
    c ∈ union codes more ↔ c ∈ codes ∨ c ∈ more := by
  unfold union
  induction more generalizing codes with
  | nil => rw [List.foldl_nil, or_iff_left List.not_mem_nil]
  | cons m more ih =>
    rw [List.foldl_cons, ih, List.mem_cons, ← or_assoc]
    refine or_congr_left ?_
    by_cases hm : codes.contains m = true
    · rw [if_pos hm]
      have hm : m ∈ codes := List.contains_iff_mem.mp hm
      exact ⟨.inl, fun h => h.elim id fun hc => hc ▸ hm⟩
    · rw [if_neg hm, List.mem_append, List.mem_singleton]

/-- The wildcard covers every code. -/
theorem covers_iff {codes : List String} {code : String} :
    covers codes code = true ↔ code ∈ codes ∨ wildcard ∈ codes := by
  unfold covers
  rw [Bool.or_eq_true, List.contains_iff_mem, List.contains_iff_mem]

/-! ## The codes of lines -/

/-- The lines of a list are those of different entries. -/
def Distinct (lines : List (Int × List String)) : Prop :=
  (lines.map Prod.fst).Nodup

section Lines

variable {lines more : List (Int × List String)} {line n : Int} {codes : List String} {c : String}

/-- Codes are added to those of their line, and no other line changes. -/
theorem lookup_addLine :
    (addLine line codes lines).lookup n =
      if n = line then some (union ((lines.lookup line).getD []) codes) else lines.lookup n := by
  induction lines with
  | nil => exact lookup_cons_eq_ite line n _ []
  | cons entry lines ih =>
    obtain ⟨m, own⟩ := entry
    unfold addLine
    by_cases hm : m = line
    · subst hm
      rw [if_pos (beq_self_eq_true m), List.lookup_cons_self, lookup_cons_eq_ite,
        lookup_cons_eq_ite]
      split <;> rfl
    · rw [if_neg (mt beq_iff_eq.mp hm), lookup_cons_eq_ite, ih, lookup_cons_eq_ite m line,
        if_neg (Ne.symm hm), lookup_cons_eq_ite]
      by_cases hn : n = m
      · rw [if_pos hn, if_pos hn, if_neg (hn ▸ hm)]
      · rw [if_neg hn, if_neg hn]

/-- A line has the codes it had, and those added to it. -/
theorem mem_lookup_addLine :
    c ∈ ((addLine line codes lines).lookup n).getD [] ↔
      c ∈ (lines.lookup n).getD [] ∨ n = line ∧ c ∈ codes := by
  rw [lookup_addLine]
  by_cases hn : n = line
  · rw [if_pos hn, Option.getD_some, mem_union, hn]
    exact or_congr_right (and_iff_right rfl).symm
  · rw [if_neg hn]
    exact (or_iff_left fun h => hn h.1).symm

theorem mem_keys_addLine :
    n ∈ (addLine line codes lines).map Prod.fst ↔ n ∈ lines.map Prod.fst ∨ n = line := by
  induction lines with
  | nil => exact ⟨fun h => .inr (List.mem_singleton.mp h), fun h => List.mem_singleton.mpr
      (h.resolve_left List.not_mem_nil)⟩
  | cons entry lines ih =>
    obtain ⟨m, own⟩ := entry
    unfold addLine
    by_cases hm : m = line
    · subst hm
      rw [beq_self_eq_true, if_pos rfl, List.map_cons, List.map_cons, List.mem_cons]
      exact ⟨.inl, fun h => h.elim id .inl⟩
    · rw [beq_false_of_ne hm, if_neg Bool.false_ne_true, List.map_cons, List.map_cons,
        List.mem_cons, List.mem_cons, ih, or_assoc]

/-- A line is still listed once. -/
theorem Distinct.addLine (h : Distinct lines) : Distinct (addLine line codes lines) := by
  induction lines with
  | nil => exact List.nodup_singleton line
  | cons entry lines ih =>
    obtain ⟨m, own⟩ := entry
    obtain ⟨hm, hlines⟩ := List.nodup_cons.mp h
    unfold Pragmas.addLine
    by_cases heq : m = line
    · rw [heq, beq_self_eq_true, if_pos rfl]
      exact heq ▸ h
    · rw [beq_false_of_ne heq, if_neg Bool.false_ne_true]
      refine List.nodup_cons.mpr ⟨fun hmem => ?_, ih hlines⟩
      exact (mem_keys_addLine.mp hmem).elim hm heq

/-- Where lines stand once, what is found for a line is what stands there. -/
theorem Distinct.mem_lookup_iff (h : Distinct lines) :
    c ∈ (lines.lookup n).getD [] ↔ ∃ codes, (n, codes) ∈ lines ∧ c ∈ codes := by
  induction lines with
  | nil => exact ⟨fun hc => (nomatch hc), fun ⟨_, hmem, _⟩ => (nomatch hmem)⟩
  | cons entry lines ih =>
    obtain ⟨m, own⟩ := entry
    obtain ⟨hm, hlines⟩ := List.nodup_cons.mp h
    rw [lookup_cons_eq_ite]
    by_cases hn : n = m
    · subst hn
      rw [if_pos rfl]
      refine ⟨fun hc => ⟨own, List.mem_cons_self, hc⟩, fun ⟨codes, hmem, hc⟩ => ?_⟩
      -- the line is not listed again, so no later entry is asked
      rcases List.mem_cons.mp hmem with heq | hmem
      · exact (Prod.mk.inj heq).2 ▸ hc
      · exact absurd (List.mem_map_of_mem hmem) hm
    · rw [if_neg hn]
      refine (ih hlines).trans (exists_congr fun codes => and_congr_left fun _ => ?_)
      rw [List.mem_cons, or_iff_right fun heq => hn (Prod.mk.inj heq).1]

/-- The same for codes added to many lines. -/
theorem mem_lookup_foldl_addLine :
    c ∈ ((more.foldl (fun lines e => addLine e.1 e.2 lines) lines).lookup n).getD [] ↔
      c ∈ (lines.lookup n).getD [] ∨ ∃ codes, (n, codes) ∈ more ∧ c ∈ codes := by
  induction more generalizing lines with
  | nil => exact ⟨.inl, fun h => h.resolve_right fun ⟨_, hmem, _⟩ => (nomatch hmem)⟩
  | cons entry more ih =>
    rw [List.foldl_cons, ih, mem_lookup_addLine, or_assoc]
    refine or_congr_right ⟨?_, ?_⟩
    · rintro (⟨rfl, hc⟩ | ⟨codes, hmem, hc⟩)
      · exact ⟨entry.2, List.mem_cons_self, hc⟩
      · exact ⟨codes, List.mem_cons_of_mem entry hmem, hc⟩
    · rintro ⟨codes, hmem, hc⟩
      rcases List.mem_cons.mp hmem with rfl | hmem
      · exact .inl ⟨rfl, hc⟩
      · exact .inr ⟨codes, hmem, hc⟩

end Lines

/-! ## United states -/

section Merge

variable {a b p : Pragmas} {code c : String} {line : Int}

/-- A failure is silenced by all, by its file or by its line. -/
theorem ignores_iff :
    p.ignores code line = true ↔
      p.disabled = true ∨ covers p.fileCodes code = true ∨ covers (p.codesAt line) code = true := by
  unfold ignores
  rw [Bool.or_eq_true, Bool.or_eq_true, or_assoc]

theorem covers_fileCodes_merge :
    covers (a.merge b).fileCodes code = true ↔
      covers a.fileCodes code = true ∨ covers b.fileCodes code = true := by
  simp only [covers_iff, merge, mem_union]
  exact or_or_or_comm

theorem mem_codesAt_merge (hb : Distinct b.lineCodes) :
    c ∈ (a.merge b).codesAt line ↔ c ∈ a.codesAt line ∨ c ∈ b.codesAt line :=
  mem_lookup_foldl_addLine.trans (or_congr_right hb.mem_lookup_iff.symm)

/-- Merged comments cover on a line what either covers. -/
theorem covers_codesAt_merge (hb : Distinct b.lineCodes) :
    covers ((a.merge b).codesAt line) code = true ↔
      covers (a.codesAt line) code = true ∨ covers (b.codesAt line) code = true := by
  simp only [covers_iff, mem_codesAt_merge hb]
  exact or_or_or_comm

/-- **What is off under united pragmas is off under one of them.** -/
theorem ignores_merge (hb : Distinct b.lineCodes) :
    (a.merge b).ignores code line = true ↔
      a.ignores code line = true ∨ b.ignores code line = true := by
  rw [ignores_iff, ignores_iff, ignores_iff, covers_fileCodes_merge, covers_codesAt_merge hb]
  have hdisabled : (a.merge b).disabled = true ↔ a.disabled = true ∨ b.disabled = true := by
    simp only [merge, Bool.or_eq_true]
  rw [hdisabled]
  tauto

/-- At the level of the file the lines do not count. -/
theorem ignores_fileLevel :
    p.fileLevel.ignores code line = true ↔ p.disabled = true ∨ covers p.fileCodes code = true := by
  rw [ignores_iff, ← or_assoc]
  exact or_iff_left Bool.false_ne_true

/-- What is off once the pragmas for whole files are united, one file after the other. -/
theorem ignores_foldl_fileLevel {α : Type} (pragmasOf : α → Pragmas) (files : List α)
    (start : Pragmas) :
    (files.foldl (fun all e => all.merge (pragmasOf e).fileLevel) start).ignores code line = true ↔
      start.ignores code line = true ∨
        ∃ e ∈ files, (pragmasOf e).fileLevel.ignores code line = true := by
  induction files generalizing start with
  | nil => exact ⟨.inl, fun h => h.resolve_right fun ⟨_, he, _⟩ => (nomatch he)⟩
  | cons e files ih =>
    -- what a file says about itself as a whole names no lines
    have hnoLines : Distinct (pragmasOf e).fileLevel.lineCodes := List.nodup_nil
    rw [List.foldl_cons, ih, ignores_merge hnoLines, or_assoc, List.exists_mem_cons_iff]

/-- What is off on a line is off for the file, or on this line. -/
theorem ignores_iff_fileLevel_or :
    p.ignores code line = true ↔
      p.fileLevel.ignores code line = true ∨ covers (p.codesAt line) code = true := by
  rw [ignores_fileLevel, ignores_iff, or_assoc]

end Merge

end ContainerLint.Pragmas
