/-
The variables of an action, by the runs that they stand in.

The scan for variables opens a path at a dot and closes it at the first character that no path
has. It goes over the text once and never turns back. The description knows nothing of a scan:
a *run* is a stretch of path characters that is as long as it can be, and a variable is what a
run has from its first dot on, unless that is the dot alone.

The scan may stand in the middle of a run and yet be outside of a path, but then the run has
had no dot so far. So what is left of the run has the same first dot as the whole of it, and it
makes no difference where the text is cut into runs from (`pathsFrom_eq`).
-/
import ContainerLint.Proofs.Text.Order
import ContainerLint.Proofs.Text.Stretch
import ContainerLint.Template.Reference
import Mathlib.Data.List.TakeWhile

namespace ContainerLint.Text

/-! ## Runs -/

/-- A stretch of a text that consists of characters of a class and is as long as it can be:
what stands next to it on either side is not of the class. -/
def IsRun (p : Char → Bool) (cs run : List Char) : Prop :=
  ∃ before after, cs = before ++ run ++ after ∧ (∀ c ∈ run, p c = true) ∧
    (∀ c ∈ before.getLast?, p c = false) ∧ ∀ c ∈ after.head?, p c = false

variable {p : Char → Bool} {cs run : List Char}

/-- The pieces between the characters of the other class: the first one is the front of the text,
and before each of the others there stands such a character. -/
theorem exists_splitBy_not_eq (p : Char → Bool) (cs : List Char) :
    ∃ first rest, splitBy (fun c => !p c) cs = first :: rest ∧
      (∃ after, cs = first ++ after ∧ ∀ c ∈ after.head?, p c = false) ∧
      ∀ run ∈ rest, ∃ before sep after, cs = before ++ sep :: (run ++ after) ∧ p sep = false ∧
        ∀ c ∈ after.head?, p c = false := by
  induction cs with
  | nil =>
    refine ⟨[], [], rfl, ⟨[], rfl, ?_⟩, ?_⟩
    · intro c hc
      cases hc
    · intro run hrun
      cases hrun
  | cons c cs ih =>
    obtain ⟨first, rest, hsplit, ⟨after, hfirst, hafter⟩, hrest⟩ := ih
    -- one more character in front of the text goes in front of what is before a later piece
    have hlater : ∀ run ∈ rest, ∃ before sep after, c :: cs = before ++ sep :: (run ++ after) ∧
        p sep = false ∧ ∀ c ∈ after.head?, p c = false := by
      intro run hrun
      obtain ⟨before, sep, tail, hcs, hsep, htail⟩ := hrest run hrun
      exact ⟨c :: before, sep, tail, by rw [hcs, List.cons_append], hsep, htail⟩
    rw [splitBy, hsplit]
    by_cases hc : p c = true
    · rw [hc, if_neg (by simp)]
      exact ⟨c :: first, rest, rfl, ⟨after, by rw [hfirst, List.cons_append], hafter⟩, hlater⟩
    · rw [Bool.not_eq_true] at hc
      rw [hc, if_pos (by simp)]
      refine ⟨[], first :: rest, rfl, ⟨c :: cs, rfl, ?_⟩, ?_⟩
      · intro d hd
        obtain rfl : c = d := by simpa using hd
        exact hc
      · intro run hrun
        rcases List.mem_cons.mp hrun with rfl | hrun
        · exact ⟨[], c, after, by rw [hfirst, List.nil_append], hc, hafter⟩
        · exact hlater run hrun

/-- **The runs of a text are its pieces** between the characters of the other class. -/
theorem mem_splitBy_not_iff : run ∈ splitBy (fun c => !p c) cs ↔ IsRun p cs run := by
  constructor
  · intro hrun
    have hinside : ∀ c ∈ run, p c = true := by
      intro c hc
      simpa using (mem_of_mem_splitBy hrun hc).2
    obtain ⟨first, rest, hsplit, ⟨after, hfirst, hafter⟩, hrest⟩ := exists_splitBy_not_eq p cs
    rw [hsplit] at hrun
    rcases List.mem_cons.mp hrun with rfl | hrun
    · refine ⟨[], after, hfirst, hinside, ?_, hafter⟩
      intro c hc
      cases hc
    · obtain ⟨before, sep, tail, hcs, hsep, htail⟩ := hrest run hrun
      refine ⟨before ++ [sep], tail, by simp [hcs], hinside, ?_, htail⟩
      intro c hc
      obtain rfl : sep = c := by simpa using hc
      exact hsep
  · rintro ⟨before, after, rfl, hinside, hbefore, hafter⟩
    have hnosep : ∀ c ∈ run, (!p c) = false := by
      intro c hc
      simp [hinside c hc]
    rw [splitBy_eq_splitOnP, List.append_assoc]
    have hfront : run ∈ (run ++ after).splitOnP fun c => !p c := by
      cases after with
      | nil => simp [List.splitOnP_eq_singleton hnosep]
      | cons c after =>
        have hc : (!p c) = true := by simp [hafter c rfl]
        rw [List.splitOnP_append_cons_of_forall_mem hnosep c hc]
        exact List.mem_cons_self
    rcases List.eq_nil_or_concat' before with rfl | ⟨front, c, rfl⟩
    · exact hfront
    · have hc : (!p c) = true := by simp [hbefore c (by simp)]
      rw [List.append_assoc, List.singleton_append, List.splitOnP_append_cons (p := fun c => !p c) _ _ hc]
      exact List.mem_append_right _ hfront

end ContainerLint.Text

namespace ContainerLint.Template

open ContainerLint.Text

/-! ## The scan -/

/-- The path of a run: what it has from its first dot on, if that is more than the dot. -/
def pathOfRun (run : List Char) : List (List Char) :=
  finishedPath (run.dropWhile (· != '.')).reverse

/-- A run has the path that starts at its first dot, if it goes on behind it. -/
theorem mem_pathOfRun_iff {run path : List Char} :
    path ∈ pathOfRun run ↔ path = run.dropWhile (· != '.') ∧ 1 < path.length := by
  unfold pathOfRun finishedPath
  rw [List.reverse_reverse, List.length_reverse]
  split
  next hlong =>
    rw [List.mem_singleton]
    exact ⟨fun h => ⟨h, h ▸ hlong⟩, fun h => h.1⟩
  next hshort =>
    refine iff_of_false List.not_mem_nil ?_
    rintro ⟨rfl, hlong⟩
    exact hshort hlong

/-- **The scan finds the paths of the runs**, in their order. With a path open, what is left of
the run that the scan stands in belongs to it. -/
theorem pathsFrom_eq {cs first : List Char} {rest : List (List Char)}
    (hsplit : splitBy (fun c => !isPathChar c) cs = first :: rest) :
    pathsFrom [] cs = pathOfRun first ++ rest.flatMap pathOfRun ∧
      ∀ d path, pathsFrom (d :: path) cs =
        finishedPath (first.reverse ++ d :: path) ++ rest.flatMap pathOfRun := by
  induction cs generalizing first rest with
  | nil =>
    obtain ⟨rfl, rfl⟩ := List.cons.inj hsplit
    exact ⟨rfl, fun d path => by simp [pathsFrom]⟩
  | cons c cs ih =>
    obtain ⟨next, more, hnext, -⟩ := exists_splitBy_not_eq isPathChar cs
    obtain ⟨hclosed, hopen⟩ := ih hnext
    rw [splitBy, hnext] at hsplit
    by_cases hc : isPathChar c = true
    · -- the character belongs to the run that goes on behind it
      rw [hc, if_neg (by simp)] at hsplit
      obtain ⟨rfl, rfl⟩ := List.cons.inj hsplit
      constructor
      · rw [pathsFrom]
        by_cases hdot : c = '.'
        · subst hdot
          rw [if_pos (by simp), hopen]
          simp [pathOfRun]
        · rw [if_neg (by simpa using hdot), hclosed]
          simp [pathOfRun, hdot]
      · intro d path
        rw [pathsFrom, if_pos hc, hopen]
        simp
    · -- the character ends a run, and no dot does
      have hdot : c ≠ '.' := by
        rintro rfl
        exact hc (by decide)
      rw [Bool.eq_false_iff.mpr hc, if_pos (by simp)] at hsplit
      obtain ⟨rfl, rfl⟩ := List.cons.inj hsplit
      constructor
      · rw [pathsFrom, if_neg (by simpa using hdot), hclosed]
        rfl
      · intro d path
        rw [pathsFrom, if_neg hc, hclosed]
        rfl

/-! ## Variables -/

theorem mem_pathsFrom_iff {cs path : List Char} :
    path ∈ pathsFrom [] cs ↔
      ∃ run, IsRun isPathChar cs run ∧ path = run.dropWhile (· != '.') ∧ 1 < path.length := by
  obtain ⟨first, rest, hsplit, -⟩ := exists_splitBy_not_eq isPathChar cs
  rw [(pathsFrom_eq hsplit).1, ← List.flatMap_cons, ← hsplit, List.mem_flatMap]
  simp only [mem_splitBy_not_iff, mem_pathOfRun_iff]

/-- The variables are the paths of the runs. -/
theorem mem_variablesIn_iff {content s : String} :
    s ∈ variablesIn content ↔ ∃ run, IsRun isPathChar content.toList run ∧
      s.toList = run.dropWhile (· != '.') ∧ 1 < s.length := by
  rw [variablesIn, List.mem_eraseDups, List.mem_map]
  constructor
  · rintro ⟨path, hpath, rfl⟩
    simpa using mem_pathsFrom_iff.mp hpath
  · intro h
    exact ⟨s.toList, mem_pathsFrom_iff.mpr (by simpa only [String.length_toList] using h), by simp⟩

theorem nodup_variablesIn (content : String) : (variablesIn content).Nodup :=
  nodup_eraseDups _

/-- What a variable leaves of its run has no dot. -/
theorem exists_run_of_mem_variablesIn {content s : String} (h : s ∈ variablesIn content) :
    ∃ name path, s.toList = '.' :: path ∧ '.' ∉ name ∧
      IsRun isPathChar content.toList (name ++ s.toList) := by
  obtain ⟨run, hrun, hs, hlong⟩ := mem_variablesIn_iff.mp h
  have hname : '.' ∉ run.takeWhile (· != '.') := by
    intro hdot
    simpa using List.all_eq_true.mp List.all_takeWhile _ hdot
  have hne : s.toList ≠ [] := by
    intro hnil
    rw [← String.length_toList, hnil] at hlong
    simp at hlong
  obtain ⟨c, path, hpath⟩ := List.exists_cons_of_ne_nil hne
  have hdot : c = '.' := by
    have hhead := List.head?_dropWhile_not (· != '.') run
    rw [← hs, hpath] at hhead
    simpa using hhead
  refine ⟨_, path, by rw [hpath, hdot], hname, ?_⟩
  rwa [hs, List.takeWhile_append_dropWhile]

/-- What a run has from its first dot on is a variable. -/
theorem mem_variablesIn_of_run {content : String} {name path : List Char} (hname : '.' ∉ name)
    (hpath : path ≠ []) (hrun : IsRun isPathChar content.toList (name ++ '.' :: path)) :
    String.ofList ('.' :: path) ∈ variablesIn content := by
  have hcut : (name ++ '.' :: path).dropWhile (· != '.') = '.' :: path := by
    rw [List.dropWhile_append_of_pos, List.dropWhile_cons_of_neg (by simp)]
    intro c hc
    simpa using fun h : c = '.' => hname (h ▸ hc)
  refine mem_variablesIn_iff.mpr ⟨_, hrun, by rw [hcut, String.toList_ofList], ?_⟩
  have hlength := List.length_pos_iff.mpr hpath
  simp only [String.length_ofList, List.length_cons]
  omega

/-- **The variables of an action are what its runs have from their first dot on.** The runs are
the longest stretches of letters, digits, underscores and dots; one with a dot gives what it has
from the first one on, if that is more than the dot, and nothing else is given. So a variable
starts with a dot and goes on to where no further character belongs to it; and what stands behind
a dollar sign, with a name before its dot or without, is given from the dot on. -/
theorem variablesIn_eq_runs (content : String) :
    (variablesIn content).Nodup ∧
    (∀ s, s ∈ variablesIn content ↔
      ∃ run, IsRun (fun c => isAlphanumeric c || c == '_' || c == '.') content.toList run ∧
        '.' ∈ run ∧ s.toList = run.dropWhile (· != '.') ∧ 1 < s.length) ∧
    (∀ s ∈ variablesIn content, s.toList.head? = some '.' ∧
      ∃ before after, content.toList = before ++ s.toList ++ after ∧
        ∀ c ∈ after.head?, isAlphanumeric c = false ∧ c ≠ '_' ∧ c ≠ '.') ∧
    ∀ before name path after, content.toList = before ++ '$' :: (name ++ '.' :: path ++ after) →
      (∀ c ∈ name ++ path, isAlphanumeric c = true ∨ c = '_' ∨ c = '.') → '.' ∉ name → path ≠ [] →
      (∀ c ∈ after.head?, isAlphanumeric c = false ∧ c ≠ '_' ∧ c ≠ '.') →
      String.ofList ('.' :: path) ∈ variablesIn content := by
  have hclass : ∀ c, isPathChar c = false ↔ isAlphanumeric c = false ∧ c ≠ '_' ∧ c ≠ '.' := by
    intro c
    simp [isPathChar, and_assoc]
  refine ⟨nodup_variablesIn content, ?_, ?_, ?_⟩
  · intro s
    rw [mem_variablesIn_iff]
    refine exists_congr fun run => and_congr_right fun _ => ?_
    constructor
    · rintro ⟨hs, hlong⟩
      refine ⟨?_, hs, hlong⟩
      by_contra hdot
      have hnil : run.dropWhile (· != '.') = [] := by
        rw [List.dropWhile_eq_nil_iff]
        intro c hc
        simpa using fun h : c = '.' => hdot (h ▸ hc)
      rw [← String.length_toList, hs, hnil] at hlong
      simp at hlong
    · rintro ⟨-, hs, hlong⟩
      exact ⟨hs, hlong⟩
  · intro s hs
    obtain ⟨name, path, hpath, -, before, after, hcontent, -, -, hafter⟩ :=
      exists_run_of_mem_variablesIn hs
    refine ⟨by rw [hpath, List.head?_cons], before ++ name, after, ?_, ?_⟩
    · simp [hcontent]
    · intro c hc
      exact (hclass c).mp (hafter c hc)
  · intro before name path after hcontent hchars hname hpath hafter
    refine mem_variablesIn_of_run hname hpath ⟨before ++ ['$'], after, by simp [hcontent], ?_, ?_, ?_⟩
    · have hpathChars : ∀ c ∈ name ++ path, isPathChar c = true := by
        intro c hc
        have := hchars c hc
        simpa [isPathChar, or_assoc] using this
      intro c hc
      rcases List.mem_append.mp hc with hc | hc
      · exact hpathChars c (List.mem_append_left path hc)
      · rcases List.mem_cons.mp hc with rfl | hc
        · decide
        · exact hpathChars c (List.mem_append_right name hc)
    · intro c hc
      obtain rfl : '$' = c := by simpa using hc
      decide
    · intro c hc
      exact (hclass c).mpr (hafter c hc)

/-- A path behind a named root, in an action that has a lone dot and a run without a dot too. -/
theorem variablesIn_eq_runs_of_namedRoot :
    "include \"x\" . | eq $img.Values.tag".toList =
      "include \"x\" . | eq ".toList ++ '$' :: ("img".toList ++ '.' :: "Values.tag".toList ++ []) ∧
    ".Values.tag" ∈ variablesIn "include \"x\" . | eq $img.Values.tag" := by
  have htext : "include \"x\" . | eq $img.Values.tag".toList =
      "include \"x\" . | eq ".toList ++ '$' :: ("img".toList ++ '.' :: "Values.tag".toList ++ []) := by
    decide +kernel
  refine ⟨htext, (variablesIn_eq_runs _).2.2.2 _ _ _ _ htext ?_ ?_ ?_ ?_⟩
  · intro c hc
    have hall : ("img".toList ++ "Values.tag".toList).all
        (fun c => isAlphanumeric c || c == '_' || c == '.') = true := by decide +kernel
    simpa [or_assoc] using List.all_eq_true.mp hall c hc
  · decide
  · decide
  · intro c hc
    cases hc

end ContainerLint.Template
