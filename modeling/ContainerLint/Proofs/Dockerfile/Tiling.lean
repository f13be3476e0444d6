/-
How logical lines lie in a document.

The physical lines of a document that can be read are the physical lines of its
logical lines, one logical line after the other, with blank lines between them and
nothing else: the logical lines *tile* the document. Each of them reads as itself
when its physical lines are all there is, and leaves nothing open for what follows;
only the last one may need the end of the document, where it ends in a backslash.

`run_eq_ok_iff_tiling` says that this is all there is to know: an assembly succeeds
with some logical lines exactly if these tile the document. What the tiles are in
terms of line numbers, and that they may be taken out of the document and put
together anew, are consequences, each by induction on the tiling.
-/
import ContainerLint.Proofs.Dockerfile.Assembly

namespace ContainerLint.Dockerfile

open ContainerLint.Text

/-- The physical lines of a logical line, read by themselves, are that logical line. -/
def LogicalLine.ReadsItself (l : LogicalLine) : Prop :=
  Assembly.idle.run l.line l.physical = [.ok l]

/-- The physical lines of a logical line leave nothing open. -/
def LogicalLine.IsClosed (l : LogicalLine) : Prop :=
  (Assembly.idle.walk l.line l.physical).1 = .idle

/-- `Tiling number entries lines`: the physical lines `lines`, of which the first has the
given number, are those of the logical lines `entries` and blank ones between them. -/
inductive Tiling : Nat → List LogicalLine → List (List Char) → Prop
  | done (number : Nat) : Tiling number [] []
  | blank {number : Nat} {entries : List LogicalLine} {raw : List Char}
      {lines : List (List Char)} : allBlank raw = true → Tiling (number + 1) entries lines →
      Tiling number entries (raw :: lines)
  | entry {l : LogicalLine} {entries : List LogicalLine} {lines : List (List Char)} :
      l.ReadsItself → l.IsClosed → Tiling (l.line + l.physical.length) entries lines →
      Tiling l.line (l :: entries) (l.physical ++ lines)
  | last {l : LogicalLine} : l.ReadsItself → Tiling l.line [l] l.physical

/-! ## Tilings and runs -/

namespace Assembly

/-- A state from which only the logical line that is open is known: the one that the
pending lines lead to. -/
def Reached (state : Assembly) (number : Nat) : Prop :=
  idle.walk (state.start number) state.pending = (state, []) ∧
    state.start number + state.pending.length = number

theorem reached_idle (number : Nat) : idle.Reached number :=
  ⟨rfl, rfl⟩

/-- Reading one more line of the logical line that is open. -/
theorem Reached.walk_concat {state : Assembly} {number : Nat} (h : state.Reached number)
    (raw : List Char) :
    idle.walk (state.start number) (state.pending ++ [raw]) =
      ((state.step number raw).1, (state.step number raw).2.toList) := by
  rw [walk_append, h.1]
  simp only [h.2, walk, List.append_nil, List.nil_append]

/-- The lines of a run tile, together with the lines of the logical line that was open
before it. The induction is on the lines; each of them is skipped, kept or makes a
logical line complete. -/
theorem tiling_of_run_from {state : Assembly} {number : Nat} (hstate : state.Reached number)
    {lines : List (List Char)} {entries : List LogicalLine}
    (hrun : state.run number lines = entries.map .ok) :
    Tiling (state.start number) entries (state.pending ++ lines) := by
  induction lines generalizing state number entries with
  | nil =>
    -- what is open at the end of the document is the last tile, and need not be closed
    rw [List.append_nil]
    rcases finish_cases state with ⟨rfl, hfinish⟩ | ⟨l, hfinish, hphysical, hline⟩ | ⟨e, hfinish⟩
    · rw [run, hfinish] at hrun
      rw [List.map_eq_nil_iff.mp hrun.symm]
      exact .done number
    · rw [run, hfinish] at hrun
      obtain ⟨m, rfl, hm⟩ := List.map_eq_singleton_iff.mp hrun.symm
      obtain rfl : m = l := Except.ok.inj hm
      rw [← hline number, ← hphysical]
      refine .last ?_
      rw [LogicalLine.ReadsItself, hline number, hphysical, run_eq_walk, hstate.1, hfinish]
      rfl
    · rw [run, hfinish] at hrun
      obtain ⟨m, rfl, hm⟩ := List.map_eq_singleton_iff.mp hrun.symm
      cases hm
  | cons raw lines ih =>
    have hfate := step_fate state number raw
    have hconcat := hstate.walk_concat raw
    rw [run] at hrun
    generalize hnext : state.step number raw = outcome at hfate hconcat hrun
    cases hfate with
    | skipped hidle hblank =>
      subst hidle
      exact .blank hblank (ih (reached_idle (number + 1)) hrun)
    | kept next hopen hpending hstart =>
      -- the line joins the pending ones, which stand before the rest in the tiling
      have hreached : next.Reached (number + 1) := by
        refine ⟨?_, ?_⟩
        · rw [hstart, hpending, hconcat]
          rfl
        · rw [hstart, hpending, List.length_append, List.length_singleton, ← Nat.add_assoc,
            hstate.2]
      have htiling := ih hreached hrun
      rwa [hstart, hpending, List.append_assoc, List.singleton_append] at htiling
    | completed l hphysical hline =>
      cases entries with
      | nil => simp at hrun
      | cons m entries =>
        simp only [List.map_cons, List.cons.injEq, Except.ok.injEq] at hrun
        obtain ⟨rfl, hrun⟩ := hrun
        have hlength : l.line + l.physical.length = number + 1 := by
          rw [hline, hphysical, List.length_append, List.length_singleton, ← Nat.add_assoc,
            hstate.2]
        have htiling := ih (reached_idle (number + 1)) hrun
        rw [show state.pending ++ raw :: lines = l.physical ++ lines by
          rw [hphysical, List.append_assoc, List.singleton_append], ← hline]
        refine .entry ?_ ?_ (by rw [hlength]; exact htiling)
        · rw [LogicalLine.ReadsItself, run_eq_walk, hline, hphysical, hconcat]
          rfl
        · rw [LogicalLine.IsClosed, hline, hphysical, hconcat]

end Assembly

/-- A closed line is read from its own lines, and leaves nothing open. -/
theorem LogicalLine.walk_physical {l : LogicalLine} (hreads : l.ReadsItself)
    (hclosed : l.IsClosed) : Assembly.idle.walk l.line l.physical = (.idle, [l]) := by
  rw [ReadsItself, Assembly.run_eq_walk, hclosed] at hreads
  obtain ⟨m, hwalk, hm⟩ := List.map_eq_singleton_iff.mp
    (hreads.symm.trans (List.append_nil _)).symm
  rw [Except.ok.inj hm] at hwalk
  exact Prod.ext hclosed hwalk

/-- **An assembly succeeds with some logical lines exactly if they tile the document.** -/
theorem run_eq_ok_iff_tiling (number : Nat) (entries : List LogicalLine)
    (lines : List (List Char)) :
    Assembly.idle.run number lines = entries.map .ok ↔ Tiling number entries lines := by
  constructor
  · intro hrun
    exact Assembly.tiling_of_run_from (Assembly.reached_idle number) hrun
  · intro htiling
    induction htiling with
    | done number => rfl
    | blank hblank htiling ih =>
      rw [Assembly.run, Assembly.step, if_pos hblank]
      exact ih
    | entry hreads hclosed htiling ih =>
      rw [Assembly.run_append, LogicalLine.walk_physical hreads hclosed, ih]
      rfl
    | last hreads => exact hreads

/-! ## Where the tiles lie -/

theorem LogicalLine.ReadsItself.physical_ne_nil {l : LogicalLine} (h : l.ReadsItself) :
    l.physical ≠ [] := by
  intro hempty
  rw [ReadsItself, hempty] at h
  cases h

namespace Tiling

variable {number : Nat} {entries : List LogicalLine} {lines : List (List Char)}

/-- Every tile reads itself. -/
theorem readsItself (h : Tiling number entries lines) :
    ∀ l ∈ entries, l.ReadsItself := by
  induction h with
  | done number => simp
  | blank hblank htiling ih => exact ih
  | entry hreads hclosed htiling ih => exact List.forall_mem_cons.mpr ⟨hreads, ih⟩
  | last hreads => exact List.forall_mem_singleton.mpr hreads

/-- No tile starts before the tiling does. -/
theorem number_le (h : Tiling number entries lines) : ∀ l ∈ entries, number ≤ l.line := by
  induction h with
  | done number => simp
  | blank hblank htiling ih => exact fun l hl => by have := ih l hl; omega
  | entry hreads hclosed htiling ih =>
    refine List.forall_mem_cons.mpr ⟨Nat.le_refl _, fun l hl => ?_⟩
    have := ih l hl
    omega
  | last hreads => exact List.forall_mem_singleton.mpr (Nat.le_refl _)

/-- Each tile ends before the next one starts. -/
theorem pairwise_le (h : Tiling number entries lines) :
    entries.Pairwise fun a b => a.line + a.physical.length ≤ b.line := by
  induction h with
  | done number => exact .nil
  | blank hblank htiling ih => exact ih
  | entry hreads hclosed htiling ih => exact List.pairwise_cons.mpr ⟨htiling.number_le, ih⟩
  | last hreads => exact List.pairwise_singleton _ _

/-- A tile is a piece of the document, where its line says. -/
theorem exists_append (h : Tiling number entries lines) :
    ∀ l ∈ entries, ∃ front back,
      lines = front ++ l.physical ++ back ∧ l.line = number + front.length := by
  induction h with
  | done number => simp
  | @blank number entries raw lines hblank htiling ih =>
    intro l hl
    obtain ⟨front, back, hlines, hline⟩ := ih l hl
    refine ⟨raw :: front, back, by rw [hlines, List.cons_append, List.cons_append], ?_⟩
    rw [hline, List.length_cons]
    omega
  | @entry first entries lines hreads hclosed htiling ih =>
    refine List.forall_mem_cons.mpr ⟨⟨[], lines, by simp, by simp⟩, fun l hl => ?_⟩
    obtain ⟨front, back, hlines, hline⟩ := ih l hl
    refine ⟨first.physical ++ front, back, by simp only [hlines, List.append_assoc], ?_⟩
    rw [hline, List.length_append]
    omega
  | last hreads => exact List.forall_mem_singleton.mpr ⟨[], [], by simp, by simp⟩

/-- What lies in no tile is blank. -/
theorem allBlank_of_outside (h : Tiling number entries lines) :
    ∀ (i : Nat) (hi : i < lines.length),
      (∀ l ∈ entries, ¬(l.line ≤ number + i ∧ number + i < l.line + l.physical.length)) →
        allBlank lines[i] = true := by
  induction h with
  | done number => exact fun i hi => absurd hi (Nat.not_lt_zero i)
  | @blank number entries raw lines hblank htiling ih =>
    intro i hi houtside
    cases i with
    | zero => exact hblank
    | succ i =>
      refine ih i (Nat.lt_of_succ_lt_succ hi) fun l hl hin => houtside l hl ?_
      omega
  | @entry first entries lines hreads hclosed htiling ih =>
    intro i hi houtside
    -- a line that is not in the first tile lies behind it
    have hfirst := houtside first List.mem_cons_self
    have hpast : first.physical.length ≤ i := by omega
    rw [List.length_append] at hi
    rw [List.getElem_append_right hpast]
    refine ih (i - first.physical.length) (by omega) fun l hl hin => ?_
    exact houtside l (List.mem_cons_of_mem first hl) (by omega)
  | @last first hreads =>
    intro i hi houtside
    have hfirst := houtside first List.mem_cons_self
    omega

end Tiling

/-! ## Moving tiles -/

/-- The logical line as it is when its first physical line has the given number. -/
def LogicalLine.moveTo (number : Nat) (l : LogicalLine) : LogicalLine :=
  { l with line := number }

/-- The logical lines one directly after the other, the first at the given number. -/
def gather : Nat → List LogicalLine → List LogicalLine
  | _, [] => []
  | number, l :: entries => l.moveTo number :: gather (number + l.physical.length) entries

theorem shift_moveTo_zero (l : LogicalLine) (number : Nat) :
    (l.moveTo 0).shift number = l.moveTo number := by
  simp only [LogicalLine.shift, LogicalLine.moveTo, Nat.zero_add]

/-- Where a logical line stands does not matter for how its physical lines read: a run
that starts at line zero is moved to either place. -/
theorem LogicalLine.ReadsItself.moveTo {l : LogicalLine} (h : l.ReadsItself) (number : Nat) :
    (l.moveTo number).ReadsItself := by
  have hzero : Assembly.idle.run 0 l.physical = [.ok (l.moveTo 0)] := by
    have hshift := Assembly.run_shift l.line .idle 0 l.physical
    rw [Nat.zero_add] at hshift
    obtain ⟨r, hr, hrl⟩ := List.map_eq_singleton_iff.mp (hshift.symm.trans h)
    rw [hr]
    cases r with
    | error e => cases hrl
    | ok m =>
      have hm : m.shift l.line = l := Except.ok.inj hrl
      have hline : m.line = 0 := by
        have := congrArg LogicalLine.line hm
        simp only [LogicalLine.shift] at this
        omega
      rw [← hm]
      simp only [LogicalLine.moveTo, LogicalLine.shift, ← hline]
  have hshift := Assembly.run_shift number .idle 0 l.physical
  rw [Nat.zero_add, hzero, List.map_singleton, shiftResult, shift_moveTo_zero] at hshift
  exact hshift

/-- A closed line is closed wherever it stands. -/
theorem LogicalLine.IsClosed.moveTo {l : LogicalLine} (h : l.IsClosed) (number : Nat) :
    (l.moveTo number).IsClosed := by
  have hidle : ∀ k : Nat, (Assembly.idle.walk k l.physical).1 = .idle ↔
      (Assembly.idle.walk 0 l.physical).1 = .idle := by
    intro k
    have hshift := Assembly.walk_shift k .idle 0 l.physical
    rw [Nat.zero_add] at hshift
    rw [show Assembly.idle.walk k l.physical = _ from hshift]
    cases (Assembly.idle.walk 0 l.physical).1 <;> simp [Assembly.shift]
  exact (hidle number).mpr ((hidle l.line).mp h)

/-- **The tiles of a document tile what is left without the blank lines.** -/
theorem Tiling.gather {number : Nat} {entries : List LogicalLine} {lines : List (List Char)}
    (h : Tiling number entries lines) (first : Nat) :
    Tiling first (Dockerfile.gather first entries) (entries.flatMap LogicalLine.physical) := by
  induction h generalizing first with
  | done number => exact .done first
  | blank hblank htiling ih => exact ih first
  | @entry l entries lines hreads hclosed htiling ih =>
    exact .entry (hreads.moveTo first) (hclosed.moveTo first) (ih (first + l.physical.length))
  | @last l hreads =>
    rw [List.flatMap_singleton]
    exact .last (hreads.moveTo first)

end ContainerLint.Dockerfile
