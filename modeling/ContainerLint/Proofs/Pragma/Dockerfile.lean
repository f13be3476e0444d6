/-
Pragmas of a build file that is laid out anew.

The pragmas of a build file are kept by line, and lines are only compared. So to move the
entries of a file moves what the pragmas say, as long as different lines stay different;
and a comment that is no pragma adds nothing.
-/
import ContainerLint.Proofs.Dockerfile.Insertion

namespace ContainerLint.Pragmas

open ContainerLint.Dockerfile

/-- The pragmas with what they say of lines moved. -/
def mapLines (f : Int → Int) (p : Pragmas) : Pragmas :=
  { p with lineCodes := p.lineCodes.map fun e => (f e.1, e.2) }

section MapLines

variable {f : Int → Int} (hf : Function.Injective f)

include hf

/-- Adding codes to a moved line is moving the line they were added to. -/
theorem addLine_map (line : Int) (codes : List String) (lines : List (Int × List String)) :
    addLine (f line) codes (lines.map fun e => (f e.1, e.2)) =
      (addLine line codes lines).map fun e => (f e.1, e.2) := by
  induction lines with
  | nil => rfl
  | cons entry lines ih =>
    obtain ⟨n, own⟩ := entry
    rw [List.map_cons, addLine, addLine]
    -- lines that differ still differ after the move, so the same entry is met
    by_cases hn : n = line
    · rw [hn, beq_self_eq_true, beq_self_eq_true, if_pos rfl, if_pos rfl]
      rfl
    · rw [beq_false_of_ne hn, beq_false_of_ne fun h => hn (hf h), if_neg Bool.false_ne_true,
        if_neg Bool.false_ne_true, ih]
      rfl

theorem ignoreLine_mapLines (p : Pragmas) (line : Int) (codes : List String) :
    (p.mapLines f).ignoreLine (f line) codes = (p.ignoreLine line codes).mapLines f := by
  simp only [ignoreLine, mapLines, addLine_map hf]

/-- The codes of a moved line are found where it has moved to. -/
theorem lookup_map_lines (line : Int) (lines : List (Int × List String)) :
    (lines.map fun e => (f e.1, e.2)).lookup (f line) = lines.lookup line := by
  induction lines with
  | nil => rfl
  | cons entry lines ih =>
    rw [List.map_cons, List.lookup_cons, List.lookup_cons, ih]
    by_cases hline : line = entry.1
    · rw [hline, beq_self_eq_true, beq_self_eq_true]
    · rw [beq_false_of_ne hline, beq_false_of_ne fun h => hline (hf h)]

/-- **Pragmas that are moved switch off what is moved with them.** -/
theorem ignores_mapLines (p : Pragmas) (code : String) (line : Int) :
    (p.mapLines f).ignores code (f line) = p.ignores code line := by
  simp only [ignores, codesAt, mapLines, lookup_map_lines hf]

/-- What a comment does moves with the line it is for. -/
theorem applyBody_mapLines {g : Nat → Nat} (hg : ∀ n : Nat, f n = g n) (p : Pragmas)
    (target : Option Nat) (body : List Char) :
    (p.mapLines f).applyBody (target.map g) body = (p.applyBody target body).mapLines f := by
  unfold applyBody
  dsimp only
  split
  · split <;> rfl
  · split
    · cases target with
      | none => rfl
      | some line =>
        simp only [Option.map_some, ← hg, ignoreLine_mapLines hf]
        split <;> rfl
    · split
      · rfl
      · split <;> rfl

end MapLines

/-! ## The pragmas of a file -/

/-- What all waiting comments do moves with the line they are for. -/
theorem foldl_applyBody_moveDown (k : Nat) (p : Pragmas) (target : Option Nat)
    (waiting : List (List Char)) :
    waiting.foldl (fun p body => p.applyBody (target.map (lineAfterInsertion k)) body)
        (p.mapLines (lineAfterInsertion (k : Int))) =
      (waiting.foldl (fun p body => p.applyBody target body) p).mapLines
        (lineAfterInsertion (k : Int)) :=
  List.foldl_hom (mapLines (lineAfterInsertion (k : Int))) fun p body =>
    applyBody_mapLines (injective_lineAfterInsertion k)
      (fun n => (cast_lineAfterInsertion k n).symm) p target body

/-- An entry further down says further down what it says. -/
theorem readEntry_moveDown (k : Nat) (p : Pragmas) (waiting : List (List Char))
    (entry : Positioned) :
    readEntry (p.mapLines (lineAfterInsertion (k : Int)), waiting) (entry.moveDown k) =
      Prod.map (mapLines (lineAfterInsertion (k : Int))) id (readEntry (p, waiting) entry) := by
  have happly := foldl_applyBody_moveDown k p (some entry.line) waiting
  have hignore : ∀ (p : Pragmas) codes,
      (p.mapLines (lineAfterInsertion (k : Int))).ignoreLine (lineAfterInsertion k entry.line : Nat)
        codes = (p.ignoreLine entry.line codes).mapLines (lineAfterInsertion (k : Int)) := by
    intro p codes
    rw [cast_lineAfterInsertion]
    exact ignoreLine_mapLines (injective_lineAfterInsertion k) p entry.line codes
  unfold readEntry Positioned.moveDown
  dsimp only
  split
  · split <;> rfl
  · rw [Option.map_some] at happly
    rw [happly]
    split
    · rw [hignore]
      rfl
    · rfl

/-- Read after a line was inserted, the comments say the same of the lines that moved. -/
theorem foldl_readEntry_moveDown (k : Nat) (state : Pragmas × List (List Char))
    (entries : List Positioned) :
    (entries.map (Positioned.moveDown k)).foldl readEntry
        (Prod.map (mapLines (lineAfterInsertion (k : Int))) id state) =
      Prod.map (mapLines (lineAfterInsertion (k : Int))) id (entries.foldl readEntry state) := by
  rw [List.foldl_map]
  exact List.foldl_hom (Prod.map (mapLines (lineAfterInsertion (k : Int))) id)
    fun state entry => readEntry_moveDown k state.1 state.2 entry

/-- **The pragmas of a file whose entries are moved down** are those of the file, moved
down. -/
theorem ofDockerfile_moveDown (k : Nat) (entries : List Positioned) :
    ofDockerfile (entries.map (Positioned.moveDown k)) =
      (ofDockerfile entries).mapLines (lineAfterInsertion (k : Int)) := by
  have hread : (entries.map (Positioned.moveDown k)).foldl readEntry (none, []) = _ :=
    foldl_readEntry_moveDown k (none, []) entries
  unfold ofDockerfile
  rw [hread]
  obtain ⟨p, waiting⟩ := entries.foldl readEntry (none, [])
  exact foldl_applyBody_moveDown k p Option.none waiting

/-- A comment that is no pragma leaves what is known as it is. -/
theorem readEntry_of_isSilent {entry : Positioned} (h : entry.instruction.IsSilent)
    (state : Pragmas × List (List Char)) : readEntry state entry = state := by
  obtain ⟨text, htext, hpragma⟩ := h
  unfold readEntry
  rw [htext]
  dsimp only
  rw [hpragma]

/-- **Comments that are no pragmas may stand anywhere.** -/
theorem ofDockerfile_silent {above new below : List Positioned}
    (hnew : ∀ p ∈ new, p.instruction.IsSilent) :
    ofDockerfile (above ++ new ++ below) = ofDockerfile (above ++ below) := by
  have hfold : ∀ state, new.foldl readEntry state = state := by
    intro state
    induction new with
    | nil => rfl
    | cons p new ih =>
      rw [List.forall_mem_cons] at hnew
      rw [List.foldl_cons, readEntry_of_isSilent hnew.1, ih hnew.2]
  simp only [ofDockerfile, List.foldl_append, hfold]

end ContainerLint.Pragmas
