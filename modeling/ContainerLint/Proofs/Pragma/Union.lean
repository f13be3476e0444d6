/-
Pragmas as sets, and their union.

Pragmas are kept in lists, and the lists of two states that say the same may differ: codes may
stand in another order, and so may lines. The *meaning* of a state forgets the order and nothing
else. It has the codes of the file as a set, and for each line the set of its codes, or nothing
where the line has no entry; an entry without codes is still an entry.

To unite two states is to unite their meanings, part by part (`meaning_merge`). Sets that are
united line by line form a commutative monoid, and so the laws of `merge` are those of meanings.
The shell is the one part in which the order counts. An empty name of a shell stands for none,
which shows only where nothing comes after it.
-/
import ContainerLint.Proofs.Pragma.State
import Mathlib.Data.Set.Basic

namespace ContainerLint.Pragmas

/-! ## Meanings -/

/-- What pragmas say, with sets for lists. -/
@[ext] structure Meaning where
  disabled : Bool
  file : Set String
  /-- The codes of a line, if the line has an entry. -/
  lines : Int → Option (Set String)
  shell : Option String

/-- The codes of a list as a set. -/
def codeSet (codes : List String) : Set String :=
  {c | c ∈ codes}

theorem codeSet_nil : codeSet [] = ∅ := by
  ext c
  exact iff_of_false List.not_mem_nil id

theorem codeSet_union (codes more : List String) :
    codeSet (union codes more) = codeSet codes ∪ codeSet more := by
  ext c
  exact mem_union

/-- What pragmas say. -/
def meaning (p : Pragmas) : Meaning where
  disabled := p.disabled
  file := codeSet p.fileCodes
  lines := fun n => (p.lineCodes.lookup n).map codeSet
  shell := p.shell

/-- The shell that is named; an empty name stands for none. -/
def namedShell (shell : Option String) : Option String :=
  shell.filter (!·.isEmpty)

namespace Meaning

/-- What either meaning says. -/
def unite (a b : Meaning) : Meaning where
  disabled := a.disabled || b.disabled
  file := a.file ∪ b.file
  lines := fun n => (a.lines n).merge (· ∪ ·) (b.lines n)
  shell := firstShell a.shell b.shell

end Meaning

/-! ## Shells -/

/-- The first shell that is named counts, however they are grouped. -/
theorem firstShell_assoc (a b c : Option String) :
    firstShell (firstShell a b) c = firstShell a (firstShell b c) := by
  cases a with
  | none => rfl
  | some s =>
    by_cases hs : s.isEmpty = true
    · simp [firstShell, hs]
    · simp [firstShell, hs]

/-- An empty name names no shell. -/
theorem firstShell_none (a : Option String) : firstShell a Option.none = namedShell a := by
  cases a with
  | none => rfl
  | some s =>
    by_cases hs : s.isEmpty = true
    · simp [firstShell, namedShell, Option.filter_some, hs]
    · simp [firstShell, namedShell, Option.filter_some, hs]

/-- The shell of two is the first that is named. -/
theorem namedShell_firstShell (a b : Option String) :
    namedShell (firstShell a b) = (namedShell a).or (namedShell b) := by
  cases a with
  | none => rfl
  | some s =>
    by_cases hs : s.isEmpty = true
    · simp [firstShell, namedShell, Option.filter_some, hs]
    · simp [firstShell, namedShell, Option.filter_some, hs]

/-! ## Laws of meanings -/

namespace Meaning

variable (a b c : Meaning)

/-- Meanings can be united in any grouping. -/
theorem unite_assoc : (a.unite b).unite c = a.unite (b.unite c) := by
  ext1
  · exact Bool.or_assoc _ _ _
  · exact Set.union_assoc _ _ _
  · funext n
    have hassoc : Std.Associative (Option.merge fun s t : Set String => s ∪ t) := inferInstance
    exact hassoc.assoc _ _ _
  · exact firstShell_assoc _ _ _

/-- The order counts for the shell alone. -/
theorem unite_comm (shell : Option String) :
    { a.unite b with shell := shell } = { b.unite a with shell := shell } := by
  ext1
  · exact Bool.or_comm _ _
  · exact Set.union_comm _ _
  · funext n
    have hcomm : Std.Commutative (Option.merge fun s t : Set String => s ∪ t) := inferInstance
    exact hcomm.comm _ _
  · rfl

/-- To unite with nothing on the left changes nothing. -/
theorem none_unite : Pragmas.none.meaning.unite a = a := by
  ext1
  · rfl
  · show codeSet [] ∪ a.file = a.file
    rw [codeSet_nil, Set.empty_union]
  · funext n
    exact Option.merge_none_left
  · rfl

/-- To unite with nothing on the right takes away a shell without a name. -/
theorem unite_none :
    a.unite Pragmas.none.meaning = { a with shell := namedShell a.shell } := by
  ext1
  · exact Bool.or_false _
  · show a.file ∪ codeSet [] = a.file
    rw [codeSet_nil, Set.union_empty]
  · funext n
    exact Option.merge_none_right
  · exact firstShell_none _

end Meaning

/-! ## Uniting states unites meanings -/

section Lines

variable {lines more : List (Int × List String)}

/-- An entry for each line in turn: what a line has in the end is what it had before, with what
its entry adds. The induction is on the entries, of which no later one is for the same line. -/
theorem lookup_foldl_addLine (hmore : Distinct more) (n : Int) :
    ((more.foldl (fun lines e => addLine e.1 e.2 lines) lines).lookup n).map codeSet =
      ((lines.lookup n).map codeSet).merge (· ∪ ·) ((more.lookup n).map codeSet) := by
  induction more generalizing lines with
  | nil => simp
  | cons entry more ih =>
    obtain ⟨m, own⟩ := entry
    obtain ⟨hm, hmore⟩ := List.nodup_cons.mp hmore
    rw [List.foldl_cons, ih hmore, lookup_addLine]
    dsimp only
    by_cases hn : n = m
    · subst hn
      have hnone : more.lookup n = Option.none := by
        rw [List.lookup_eq_none_iff]
        intro e he
        have hkey : e.1 ∈ more.map Prod.fst := List.mem_map_of_mem he
        simpa using fun h : n = e.1 => hm (h ▸ hkey)
      rw [if_pos rfl, hnone, List.lookup_cons_self]
      cases lines.lookup n with
      | none => simp [codeSet_union, codeSet_nil]
      | some codes => simp [codeSet_union]
    · rw [if_neg hn, lookup_cons_eq_ite, if_neg hn]

/-- However many lines are added to, each is listed once. -/
theorem distinct_foldl_addLine (hlines : Distinct lines) :
    Distinct (more.foldl (fun lines e => addLine e.1 e.2 lines) lines) := by
  induction more generalizing lines with
  | nil => exact hlines
  | cons entry more ih => exact ih hlines.addLine

end Lines

section Merge

variable {a b c : Pragmas}

/-- Each line of united pragmas has one entry again. -/
theorem distinct_merge (ha : Distinct a.lineCodes) : Distinct (a.merge b).lineCodes :=
  distinct_foldl_addLine ha

/-- **To unite pragmas is to unite what they say.** -/
theorem meaning_merge (hb : Distinct b.lineCodes) :
    (a.merge b).meaning = a.meaning.unite b.meaning := by
  ext1
  · rfl
  · exact codeSet_union _ _
  · funext n
    exact lookup_foldl_addLine hb n
  · rfl

/-- **United pragmas switch off what one of them does**, and nothing else. Uniting is associative,
leaves pragmas as they are if the others are none, up to an empty name of a shell, and makes no
difference between first and second but for the shell, which is the first that is named. United
for a whole chart, pragmas switch a code off exactly if one of the files is off or has the code,
or all codes, off as a whole; neither the order of the files nor their lines play a part. -/
theorem merge_unites (ha : Distinct a.lineCodes) (hb : Distinct b.lineCodes)
    (hc : Distinct c.lineCodes) :
    (∀ code line, (a.merge b).ignores code line = (a.ignores code line || b.ignores code line)) ∧
    ((a.merge b).merge c).meaning = (a.merge (b.merge c)).meaning ∧
    (none.merge a).meaning = a.meaning ∧
    (a.merge none).meaning = { a.meaning with shell := namedShell a.shell } ∧
    (∀ shell, { (a.merge b).meaning with shell := shell } =
      { (b.merge a).meaning with shell := shell }) ∧
    namedShell (a.merge b).shell = (namedShell a.shell).or (namedShell b.shell) ∧
    ∀ states order : List Pragmas, order.Perm states → ∀ code line,
      ((order.foldl (fun all p => all.merge p.fileLevel) none).ignores code line = true ↔
        ∃ p ∈ states, p.disabled = true ∨ code ∈ p.fileCodes ∨ wildcard ∈ p.fileCodes) := by
  have hnone : Distinct none.lineCodes := List.nodup_nil
  refine ⟨?_, ?_, ?_, ?_, ?_, namedShell_firstShell _ _, ?_⟩
  · intro code line
    rw [Bool.eq_iff_iff, ignores_merge hb, Bool.or_eq_true]
  · rw [meaning_merge hc, meaning_merge hb, meaning_merge (distinct_merge hb), meaning_merge hc,
      Meaning.unite_assoc]
  · rw [meaning_merge ha, Meaning.none_unite]
  · rw [meaning_merge hnone, Meaning.unite_none]
    rfl
  · intro shell
    rw [meaning_merge hb, meaning_merge ha, Meaning.unite_comm]
  · intro states order horder code line
    have hempty : ¬ none.ignores code line = true := Bool.false_ne_true
    refine (ignores_foldl_fileLevel id order none).trans ?_
    rw [or_iff_right hempty]
    simp only [id, horder.mem_iff, ignores_fileLevel, covers_iff]

end Merge

/-- States that share a code and two lines, in another order, one of them with an entry that has
no codes; of the shells the first has an empty name. -/
theorem merge_unites_of_overlap :
    let a : Pragmas := ⟨false, ["DL3006"], [(1, ["DL3004"]), (2, ["*"])], some ""⟩
    let b : Pragmas := ⟨false, ["DL3007", "DL3006"], [(2, ["DL3020"]), (1, [])], some "sh"⟩
    let c : Pragmas := ⟨true, [], [(2, ["DL4000"])], some "pwsh"⟩
    (Distinct a.lineCodes ∧ Distinct b.lineCodes ∧ Distinct c.lineCodes) ∧
      ((a.merge b).merge c).meaning = (a.merge (b.merge c)).meaning ∧
      (a.merge b).ignores "DL4000" 2 = (a.ignores "DL4000" 2 || b.ignores "DL4000" 2) ∧
      namedShell (a.merge b).shell = some "sh" := by
  intro a b c
  have ha : Distinct a.lineCodes := List.nodup_iff_pairwise_ne.mpr (by decide)
  have hb : Distinct b.lineCodes := List.nodup_iff_pairwise_ne.mpr (by decide)
  have hc : Distinct c.lineCodes := List.nodup_singleton _
  obtain ⟨hignores, hassoc, -, -, -, hshell, -⟩ := merge_unites ha hb hc
  exact ⟨⟨ha, hb, hc⟩, hassoc, hignores _ _, hshell⟩

end ContainerLint.Pragmas
