/-
The blocks of a template and the ends that close them.

Of the tokens of a template, the balance of its blocks sees two kinds: the actions that
open a block and the `end`s. An opener and an `end` belong together if what stands between
them is balanced. That is a relation between places, with no stack in it; and what it leaves
over, openers without an `end` and `end`s without an opener, is what is reported.

The two sides meet in a ledger, which goes over the marks with a stack of places. What is
balanced leaves the ledger as it was (`foldl_step_of_balanced`), and so a mark is matched at
the moment it is taken, with the place on top of the stack and no other
(`matches_concat_iff`). The places that the ledger ends with are the unmatched ones; this is
one induction, on the last mark.
-/
import ContainerLint.Template.Document
import Mathlib.Data.List.Forall2
import Mathlib.Data.List.Induction

namespace ContainerLint.Template

/-! ## Marks and how they match -/

/-- An action that opens a block, or an `end`, with its line. -/
inductive BlockMark where
  | opener (kind : Control) (line : Nat)
  | closer (line : Nat)
  deriving Repr, DecidableEq

/-- What a token is for the blocks. Branches, comments and text are nothing. -/
def Token.blockMark? : Token → Option BlockMark
  | .action content line .. =>
    match Control.classify? content with
    | some .endBlock => some (.closer line)
    | some kind =>
      if kind ∈ [Control.ifBlock, .range, .withBlock, .define, .block] then
        some (.opener kind line)
      else none
    | none => none
  | _ => none

/-- The openers and the `end`s of a template, in order. -/
def Document.blockMarks (d : Document) : List BlockMark :=
  d.tokens.filterMap Token.blockMark?

/-- Every opener has its `end` and every `end` its opener. -/
inductive Balanced : List BlockMark → Prop
  | nil : Balanced []
  | block {inside rest : List BlockMark} (kind : Control) (opened closed : Nat) :
      Balanced inside → Balanced rest →
      Balanced (.opener kind opened :: (inside ++ .closer closed :: rest))

/-- The opener at the place `i` and the `end` at the place `j` belong together: what stands
between them is balanced. -/
def Matches (marks : List BlockMark) (i j : Nat) : Prop :=
  ∃ front kind opened inside closed back,
    marks = front ++ .opener kind opened :: (inside ++ .closer closed :: back) ∧
      Balanced inside ∧ front.length = i ∧ i + inside.length + 1 = j

/-- No opener belongs to the `end` at the place. -/
def IsStray (marks : List BlockMark) (j : Nat) : Prop :=
  (∃ line, marks[j]? = some (.closer line)) ∧ ∀ i, ¬Matches marks i j

/-- No `end` belongs to the opener at the place. -/
def IsUnclosed (marks : List BlockMark) (i : Nat) : Prop :=
  (∃ kind line, marks[i]? = some (.opener kind line)) ∧ ∀ j, ¬Matches marks i j

/-- Two balanced lists are balanced together. -/
theorem Balanced.append {front back : List BlockMark} (hfront : Balanced front)
    (hback : Balanced back) : Balanced (front ++ back) := by
  induction hfront with
  | nil => exact hback
  | @block inside rest kind opened closed hinside hrest _ ih =>
    simp only [List.cons_append, List.append_assoc]
    exact .block kind opened closed hinside ih

theorem Matches.lt {marks : List BlockMark} {i j : Nat} (h : Matches marks i j) :
    i < j ∧ j < marks.length := by
  obtain ⟨front, kind, opened, inside, closed, back, rfl, -, rfl, rfl⟩ := h
  simp only [List.length_append, List.length_cons]
  omega

/-- Marks that match do so whatever follows. -/
theorem Matches.append {marks : List BlockMark} {i j : Nat} (h : Matches marks i j)
    (more : List BlockMark) : Matches (marks ++ more) i j := by
  obtain ⟨front, kind, opened, inside, closed, back, rfl, hinside, hi, hj⟩ := h
  exact ⟨front, kind, opened, inside, closed, back ++ more, by simp, hinside, hi, hj⟩

/-! ## The ledger -/

/-- How many marks have been taken, the places of the openers among them that wait for
their `end`, innermost first, and the places of the `end`s that came too soon, last first. -/
structure Ledger where
  next : Nat := 0
  opened : List Nat := []
  stray : List Nat := []

namespace Ledger

/-- Takes one mark. -/
def step (s : Ledger) : BlockMark → Ledger
  | .opener .. => ⟨s.next + 1, s.next :: s.opened, s.stray⟩
  | .closer _ =>
    match s.opened with
    | _ :: opened => ⟨s.next + 1, opened, s.stray⟩
    | [] => ⟨s.next + 1, [], s.next :: s.stray⟩

/-- The ledger after some marks. -/
def ofMarks (marks : List BlockMark) : Ledger :=
  marks.foldl step {}

theorem ofMarks_concat (marks : List BlockMark) (m : BlockMark) :
    ofMarks (marks ++ [m]) = (ofMarks marks).step m := by
  simp [ofMarks]

theorem next_step (s : Ledger) (m : BlockMark) : (s.step m).next = s.next + 1 := by
  cases m with
  | opener kind line => rfl
  | closer line =>
    simp only [step]
    split <;> rfl

/-- The ledger counts the marks. -/
theorem next_ofMarks (marks : List BlockMark) : (ofMarks marks).next = marks.length := by
  induction marks using List.reverseRecOn with
  | nil => rfl
  | append_singleton marks m ih => simp [ofMarks_concat, next_step, ih]

theorem step_opener (s : Ledger) (kind : Control) (line : Nat) :
    s.step (.opener kind line) = ⟨s.next + 1, s.next :: s.opened, s.stray⟩ := rfl

theorem step_closer_of_cons {s : Ledger} {i : Nat} {rest : List Nat} (h : s.opened = i :: rest)
    (line : Nat) : s.step (.closer line) = ⟨s.next + 1, rest, s.stray⟩ := by
  simp only [step, h]

theorem step_closer_of_nil {s : Ledger} (h : s.opened = []) (line : Nat) :
    s.step (.closer line) = ⟨s.next + 1, [], s.next :: s.stray⟩ := by
  simp only [step, h]

/-- **What is balanced leaves the ledger as it was.** -/
theorem foldl_step_of_balanced {inside : List BlockMark} (h : Balanced inside) (s : Ledger) :
    inside.foldl step s = { s with next := s.next + inside.length } := by
  induction h generalizing s with
  | nil => rfl
  | @block inside rest kind opened closed _ _ ihinside ihrest =>
    simp only [List.foldl_cons, List.foldl_append, ihinside, step, ihrest,
      List.length_cons, List.length_append]
    congr 1
    omega

/-- After an opener and what is balanced, the opener is on top of the stack. -/
theorem ofMarks_opener {inside : List BlockMark} (h : Balanced inside) (front : List BlockMark)
    (kind : Control) (line : Nat) :
    (ofMarks (front ++ .opener kind line :: inside)).opened =
        front.length :: (ofMarks front).opened ∧
      (ofMarks (front ++ .opener kind line :: inside)).stray = (ofMarks front).stray := by
  have hledger : ofMarks (front ++ .opener kind line :: inside) =
      inside.foldl step ((ofMarks front).step (.opener kind line)) := by
    simp [ofMarks]
  rw [hledger, foldl_step_of_balanced h, step_opener, next_ofMarks]
  exact ⟨rfl, rfl⟩

/-- **The place on top of the stack** is that of an opener behind which all is balanced.
The induction is on how many marks there are: an `end` uncovers an opener that has been on
top before, and what has come since is balanced. -/
theorem exists_of_opened_eq_cons {marks : List BlockMark} {i : Nat} {rest : List Nat}
    (h : (ofMarks marks).opened = i :: rest) :
    ∃ front kind line inside, marks = front ++ .opener kind line :: inside ∧
      Balanced inside ∧ front.length = i ∧ (ofMarks front).opened = rest := by
  -- a closer at the end leaves two shorter lists to look into: up to its opener, and before it
  induction hlength : marks.length using Nat.strongRecOn generalizing marks i rest with
  | _ n ih =>
    subst hlength
    rcases List.eq_nil_or_concat' marks with rfl | ⟨marks, m, rfl⟩
    · cases h
    rw [ofMarks_concat] at h
    cases m with
    | opener kind line =>
      rw [step_opener, next_ofMarks] at h
      obtain ⟨rfl, rfl⟩ := List.cons.inj h
      exact ⟨marks, kind, line, [], rfl, .nil, rfl, rfl⟩
    | closer line =>
      cases hopened : (ofMarks marks).opened with
      | nil =>
        rw [step_closer_of_nil hopened] at h
        cases h
      | cons k below =>
        rw [step_closer_of_cons hopened] at h
        have hbelow : below = i :: rest := h
        subst hbelow
        obtain ⟨front, kind, opened, inside, rfl, hinside, -, hfront⟩ :=
          ih _ (by simp) hopened rfl
        obtain ⟨outer, kind', opened', before, rfl, hbefore, hi, hrest⟩ :=
          ih _ (by simp only [List.length_append, List.length_cons]; omega) hfront rfl
        refine ⟨outer, kind', opened', before ++ .opener kind opened :: (inside ++ [.closer line]),
          by simp, ?_, hi, hrest⟩
        exact hbefore.append (.block kind opened line hinside .nil)

end Ledger

/-! ## The ledger and the matching -/

/-- **A mark is matched when it is taken, or never**: an `end` with the place on top of the
stack, an opener with none so far. -/
theorem matches_concat_iff {marks : List BlockMark} {m : BlockMark} {i j : Nat} :
    Matches (marks ++ [m]) i j ↔ Matches marks i j ∨
      (∃ line, m = .closer line) ∧ j = marks.length ∧
        (Ledger.ofMarks marks).opened.head? = some i := by
  constructor
  · rintro ⟨front, kind, opened, inside, closed, back, hmarks, hinside, rfl, rfl⟩
    rcases List.eq_nil_or_concat' back with rfl | ⟨back, last, rfl⟩
    · -- the last mark is the `end` itself
      have hsplit : marks ++ [m] =
          (front ++ .opener kind opened :: inside) ++ [.closer closed] := by simpa using hmarks
      obtain ⟨rfl, hm⟩ := List.append_inj' hsplit rfl
      right
      refine ⟨⟨closed, by simpa using hm⟩, by simp; omega, ?_⟩
      rw [(Ledger.ofMarks_opener hinside front kind opened).1, List.head?_cons]
    · left
      have hsplit : marks ++ [m] =
          (front ++ .opener kind opened :: (inside ++ .closer closed :: back)) ++ [last] := by
        simpa using hmarks
      obtain ⟨rfl, -⟩ := List.append_inj' hsplit rfl
      exact ⟨front, kind, opened, inside, closed, back, rfl, hinside, rfl, rfl⟩
  · rintro (h | ⟨⟨line, rfl⟩, rfl, htop⟩)
    · exact h.append [m]
    · obtain ⟨rest, hopened⟩ := List.head?_eq_some_iff.mp htop
      obtain ⟨front, kind, opened, inside, rfl, hinside, hi, -⟩ :=
        Ledger.exists_of_opened_eq_cons hopened
      refine ⟨front, kind, opened, inside, line, [], by simp, hinside, hi, ?_⟩
      simp only [List.length_append, List.length_cons]
      omega

namespace Ledger

/-- The places on the stack and those of the stray `end`s have been taken, the later ones
first. -/
theorem pairwise_ofMarks (marks : List BlockMark) :
    ((ofMarks marks).opened.Pairwise (· > ·) ∧ ∀ i ∈ (ofMarks marks).opened, i < marks.length) ∧
      (ofMarks marks).stray.Pairwise (· > ·) ∧ ∀ j ∈ (ofMarks marks).stray, j < marks.length := by
  induction marks using List.reverseRecOn with
  | nil => simp [ofMarks]
  | append_singleton marks m ih =>
    obtain ⟨⟨hopened, hin⟩, hstray, hbefore⟩ := ih
    -- places are put on top as they come, so the lists are in descending order
    have hlater : ∀ {l : List Nat}, (∀ i ∈ l, i < marks.length) →
        ∀ i ∈ l, i < (marks ++ [m]).length := by
      intro l hl i hi
      have := hl i hi
      simp only [List.length_append, List.length_singleton]
      omega
    have hlast : marks.length < (marks ++ [m]).length := by simp
    rw [ofMarks_concat]
    cases m with
    | opener kind line =>
      simp only [step_opener, next_ofMarks, List.pairwise_cons, List.forall_mem_cons]
      exact ⟨⟨⟨hin, hopened⟩, hlast, hlater hin⟩, hstray, hlater hbefore⟩
    | closer line =>
      cases htop : (ofMarks marks).opened with
      | nil =>
        simp only [step_closer_of_nil htop, next_ofMarks, List.pairwise_cons, List.forall_mem_cons]
        exact ⟨⟨.nil, fun _ h => absurd h List.not_mem_nil⟩, ⟨hbefore, hstray⟩, hlast,
          hlater hbefore⟩
      | cons k rest =>
        rw [htop, List.pairwise_cons] at hopened
        rw [htop, List.forall_mem_cons] at hin
        simp only [step_closer_of_cons htop]
        exact ⟨⟨hopened.2, hlater hin.2⟩, hstray, hlater hbefore⟩

end Ledger

/-- A mark of the longer list is one of the list or the new one. -/
theorem getElem?_concat_iff {marks : List BlockMark} {m x : BlockMark} {i : Nat} :
    (marks ++ [m])[i]? = some x ↔ marks[i]? = some x ∨ i = marks.length ∧ m = x := by
  rcases Nat.lt_trichotomy i marks.length with hlt | rfl | hgt
  · have hne : i ≠ marks.length := Nat.ne_of_lt hlt
    simp [List.getElem?_append_left hlt, hne]
  · simp
  · have hne : i ≠ marks.length := Nat.ne_of_gt hgt
    have hout : (marks ++ [m])[i]? = none := by
      rw [List.getElem?_eq_none_iff, List.length_append, List.length_singleton]
      omega
    have hout' : marks[i]? = none := List.getElem?_eq_none_iff.mpr (Nat.le_of_lt hgt)
    simp [hout, hout', hne]

section Concat

variable {marks : List BlockMark} {i j : Nat}

/-- An opener is unclosed at first, and closes nothing. -/
theorem isUnclosed_concat_opener (kind : Control) (line : Nat) :
    IsUnclosed (marks ++ [.opener kind line]) i ↔ IsUnclosed marks i ∨ i = marks.length := by
  have hmatches : ∀ j, Matches (marks ++ [.opener kind line]) i j ↔ Matches marks i j := by
    intro j
    simp [matches_concat_iff]
  simp only [IsUnclosed, getElem?_concat_iff, hmatches]
  constructor
  · rintro ⟨⟨k, l, hmark | ⟨hi, -⟩⟩, hnone⟩
    · exact .inl ⟨⟨k, l, hmark⟩, hnone⟩
    · exact .inr hi
  · rintro (⟨⟨k, l, hmark⟩, hnone⟩ | rfl)
    · exact ⟨⟨k, l, .inl hmark⟩, hnone⟩
    · refine ⟨⟨kind, line, .inr ⟨rfl, rfl⟩⟩, fun j h => ?_⟩
      have := h.lt
      omega

/-- A closer closes the innermost block that is open. -/
theorem isUnclosed_concat_closer (line : Nat) :
    IsUnclosed (marks ++ [.closer line]) i ↔
      IsUnclosed marks i ∧ (Ledger.ofMarks marks).opened.head? ≠ some i := by
  simp only [IsUnclosed, getElem?_concat_iff, matches_concat_iff]
  constructor
  · rintro ⟨⟨k, l, hmark⟩, hnone⟩
    refine ⟨⟨⟨k, l, by simpa using hmark⟩, fun j h => hnone j (.inl h)⟩, fun htop => ?_⟩
    exact hnone marks.length (.inr ⟨⟨line, rfl⟩, rfl, htop⟩)
  · rintro ⟨⟨⟨k, l, hmark⟩, hnone⟩, htop⟩
    refine ⟨⟨k, l, .inl hmark⟩, fun j h => ?_⟩
    rcases h with h | ⟨-, -, h⟩
    · exact hnone j h
    · exact htop h

theorem isStray_concat_opener (kind : Control) (line : Nat) :
    IsStray (marks ++ [.opener kind line]) j ↔ IsStray marks j := by
  simp [IsStray, getElem?_concat_iff, matches_concat_iff]

/-- A closer is stray if no block is open. -/
theorem isStray_concat_closer (line : Nat) :
    IsStray (marks ++ [.closer line]) j ↔
      IsStray marks j ∨ j = marks.length ∧ (Ledger.ofMarks marks).opened = [] := by
  simp only [IsStray, getElem?_concat_iff, matches_concat_iff]
  constructor
  · rintro ⟨⟨l, hmark | ⟨rfl, -⟩⟩, hnone⟩
    · exact .inl ⟨⟨l, hmark⟩, fun i h => hnone i (.inl h)⟩
    · refine .inr ⟨rfl, ?_⟩
      cases hopened : (Ledger.ofMarks marks).opened with
      | nil => rfl
      | cons i rest => exact absurd (.inr ⟨⟨line, rfl⟩, rfl, by rw [hopened]; rfl⟩) (hnone i)
  · rintro (⟨⟨l, hmark⟩, hnone⟩ | ⟨rfl, hopened⟩)
    · refine ⟨⟨l, .inl hmark⟩, fun i h => ?_⟩
      rcases h with h | ⟨-, rfl, -⟩
      · exact hnone i h
      · simp at hmark
    · refine ⟨⟨line, .inr ⟨rfl, rfl⟩⟩, fun i h => ?_⟩
      rcases h with h | ⟨-, -, htop⟩
      · have := h.lt
        omega
      · simp [hopened] at htop

end Concat

/-- **The ledger ends with the unmatched places.** -/
theorem Ledger.mem_ofMarks_iff (marks : List BlockMark) :
    (∀ i, i ∈ (ofMarks marks).opened ↔ IsUnclosed marks i) ∧
      ∀ j, j ∈ (ofMarks marks).stray ↔ IsStray marks j := by
  induction marks using List.reverseRecOn with
  | nil => simp [ofMarks, IsUnclosed, IsStray]
  | append_singleton marks m ih =>
    obtain ⟨hopened, hstray⟩ := ih
    rw [ofMarks_concat]
    cases m with
    | opener kind line =>
      simp only [step_opener, next_ofMarks, List.mem_cons, isUnclosed_concat_opener,
        isStray_concat_opener, hopened, hstray, or_comm, implies_true, and_self]
    | closer line =>
      cases htop : (ofMarks marks).opened with
      | nil =>
        simp only [htop, List.not_mem_nil, false_iff] at hopened
        simp only [step_closer_of_nil htop, next_ofMarks, List.mem_cons, isUnclosed_concat_closer,
          isStray_concat_closer, hopened, hstray, htop, or_comm, List.not_mem_nil, false_and,
          and_true, implies_true]
      | cons k rest =>
        -- the place on top is not on the stack a second time
        have hfresh : k ∉ rest := by
          have hordered := (pairwise_ofMarks marks).1.1
          rw [htop, List.pairwise_cons] at hordered
          exact fun hk => Nat.lt_irrefl k (hordered.1 k hk)
        simp only [step_closer_of_cons htop, isUnclosed_concat_closer, isStray_concat_closer,
          ← hopened, hstray, htop, List.head?_cons, ne_eq, Option.some.injEq,
          List.mem_cons, List.cons_ne_nil, and_false, or_false, implies_true, and_true]
        intro i
        constructor
        · intro hi
          exact ⟨.inr hi, fun hk => hfresh (hk ▸ hi)⟩
        · rintro ⟨rfl | hi, hne⟩
          · exact absurd rfl hne
          · exact hi

/-- **Marks are balanced if none is left over.** -/
theorem balanced_iff {marks : List BlockMark} :
    Balanced marks ↔ (Ledger.ofMarks marks).opened = [] ∧ (Ledger.ofMarks marks).stray = [] := by
  constructor
  · intro h
    simp [Ledger.ofMarks, Ledger.foldl_step_of_balanced h]
  · rintro ⟨hopened, hstray⟩
    -- on the number of marks: the opener of the last `end` cuts them in two
    induction hlength : marks.length using Nat.strongRecOn generalizing marks with
    | _ n ih =>
      subst hlength
      rcases List.eq_nil_or_concat' marks with rfl | ⟨marks, m, rfl⟩
      · exact .nil
      rw [Ledger.ofMarks_concat] at hopened hstray
      cases m with
      | opener kind line => cases hopened
      | closer line =>
        cases htop : (Ledger.ofMarks marks).opened with
        | nil =>
          rw [Ledger.step_closer_of_nil htop] at hstray
          cases hstray
        | cons k rest =>
          rw [Ledger.step_closer_of_cons htop] at hopened hstray
          obtain ⟨front, kind, opened, inside, rfl, hinside, -, hrest⟩ :=
            Ledger.exists_of_opened_eq_cons htop
          have hbefore := (Ledger.ofMarks_opener hinside front kind opened).2
          have hfront : Balanced front :=
            ih front.length (by simp only [List.length_append, List.length_cons]; omega)
              (hrest.trans hopened) (hbefore.symm.trans hstray) rfl
          have hblock := hfront.append (.block kind opened line hinside .nil)
          simpa using hblock

instance (marks : List BlockMark) : Decidable (Balanced marks) :=
  decidable_of_iff _ balanced_iff.symm

/-! ## The balance of a template -/

/-- Takes a mark. -/
def Balance.take (b : Balance) : BlockMark → Balance
  | .opener kind line => { b with opened := (kind, line) :: b.opened }
  | .closer line =>
    match b.opened with
    | _ :: opened => { b with opened := opened }
    | [] => { b with strayEnds := line :: b.strayEnds }

/-- Of a token, the balance takes its mark. -/
theorem Balance.step_eq (b : Balance) (t : Token) :
    b.step t = (t.blockMark?.map b.take).getD b := by
  cases t with
  | text content line => rfl
  | comment content line trimLeft trimRight => rfl
  | action content line trimLeft trimRight =>
    simp only [Balance.step, Token.control?, Token.blockMark?]
    cases Control.classify? content with
    | none => rfl
    | some kind => cases kind <;> rfl

/-- Of the tokens only the marks count. -/
theorem Balance.foldl_step (tokens : List Token) (b : Balance) :
    tokens.foldl Balance.step b = (tokens.filterMap Token.blockMark?).foldl Balance.take b := by
  induction tokens generalizing b with
  | nil => rfl
  | cons t tokens ih =>
    rw [List.foldl_cons, ih, Balance.step_eq]
    cases hmark : t.blockMark? with
    | none => simp [hmark]
    | some m => simp [hmark]

/-- **The balance shows what the ledger has places of**: the kinds and the lines of the
openers on the stack, and the lines of the stray `end`s. -/
theorem Balance.forall₂_foldl_take (marks : List BlockMark) :
    List.Forall₂ (fun i block => marks[i]? = some (.opener block.1 block.2))
        (Ledger.ofMarks marks).opened (marks.foldl Balance.take {}).opened ∧
      List.Forall₂ (fun j line => marks[j]? = some (.closer line))
        (Ledger.ofMarks marks).stray (marks.foldl Balance.take {}).strayEnds := by
  induction marks using List.reverseRecOn with
  | nil => exact ⟨.nil, .nil⟩
  | append_singleton marks m ih =>
    have hopened := ih.1.imp fun i block h => getElem?_concat_iff (m := m) |>.mpr (.inl h)
    have hstray := ih.2.imp fun j line h => getElem?_concat_iff (m := m) |>.mpr (.inl h)
    rw [Ledger.ofMarks_concat, List.foldl_append, List.foldl_cons, List.foldl_nil]
    generalize marks.foldl Balance.take {} = b at hopened hstray ⊢
    cases m with
    | opener kind line =>
      rw [Ledger.step_opener, Ledger.next_ofMarks]
      exact ⟨.cons (by simp) hopened, hstray⟩
    | closer line =>
      cases htop : (Ledger.ofMarks marks).opened with
      | nil =>
        rw [htop, List.forall₂_nil_left_iff] at hopened
        rw [Ledger.step_closer_of_nil htop, Ledger.next_ofMarks]
        simp only [Balance.take, hopened]
        exact ⟨.nil, .cons (by simp) hstray⟩
      | cons k rest =>
        rw [htop] at hopened
        -- both take their top off
        obtain ⟨block, below, -, hbelow, hb⟩ := List.forall₂_cons_left_iff.mp hopened
        rw [Ledger.step_closer_of_cons htop]
        simp only [Balance.take, hb]
        exact ⟨hbelow, hstray⟩

/-- Nothing is left over if the marks are balanced. -/
theorem Balance.foldl_take_eq_nil_iff (marks : List BlockMark) :
    (marks.foldl Balance.take {}).opened = [] ∧ (marks.foldl Balance.take {}).strayEnds = [] ↔
      Balanced marks := by
  obtain ⟨hopened, hstray⟩ := Balance.forall₂_foldl_take marks
  rw [balanced_iff, ← List.length_eq_zero_iff, ← List.length_eq_zero_iff,
    ← List.length_eq_zero_iff, ← List.length_eq_zero_iff, hopened.length_eq, hstray.length_eq]

/-! ## The errors of a template -/

namespace Document

theorem balance_eq (d : Document) : d.balance = d.blockMarks.foldl Balance.take {} :=
  Balance.foldl_step d.tokens {}

/-- Of the errors, those about `end`s are the stray ones. -/
theorem filter_errors_unexpectedEnd (d : Document) :
    d.errors.filter (fun e => decide (e.fault.message = "Unexpected end")) =
      d.balance.strayEnds.reverse.map (⟨.unexpectedEnd, ·⟩) := by
  have hmessage : ∀ f : Fault, f.message = "Unexpected end" ↔ f = .unexpectedEnd := by
    intro f
    cases f with
    | unclosedAction => decide
    | unexpectedEnd => decide
    | unclosedBlock kind => cases kind <;> decide
  simp only [hmessage, errors, List.filter_append, List.filter_map]
  simp [Function.comp_def]

/-- Of the errors, those about blocks are one for each that is never closed. -/
theorem filter_errors_unclosedBlock (d : Document) :
    d.errors.filter (fun e => Text.startsWith e.fault.message "Unclosed " &&
        Text.endsWith e.fault.message " block") =
      d.unclosedBlocks.map fun block => ⟨.unclosedBlock block.1, block.2⟩ := by
  have hblock : ∀ kind, (Text.startsWith (Fault.unclosedBlock kind).message "Unclosed " &&
      Text.endsWith (Fault.unclosedBlock kind).message " block") = true := by
    intro kind
    cases kind <;> decide +kernel
  have haction : (Text.startsWith Fault.unclosedAction.message "Unclosed " &&
      Text.endsWith Fault.unclosedAction.message " block") = false := by decide +kernel
  have hend : (Text.startsWith Fault.unexpectedEnd.message "Unclosed " &&
      Text.endsWith Fault.unexpectedEnd.message " block") = false := by decide +kernel
  simp only [errors, List.filter_append, List.filter_map, Function.comp_def, hblock, haction, hend]
  simp

/-- A template has no errors if its blocks are balanced and its last action is closed. -/
theorem errors_eq_nil_iff (d : Document) :
    d.errors = [] ↔ Balanced d.blockMarks ∧ d.unclosedAction = none := by
  rw [← Balance.foldl_take_eq_nil_iff, ← d.balance_eq]
  simp only [errors, unclosedBlocks, List.append_eq_nil_iff, List.map_eq_nil_iff,
    List.reverse_eq_nil_iff, Option.toList_eq_nil_iff]
  tauto

end Document

/-- The places with a property, from left to right. -/
structure ArePlaces (p : Nat → Prop) (places : List Nat) : Prop where
  increasing : places.Pairwise (· < ·)
  mem_iff : ∀ i, i ∈ places ↔ p i

/-- **What is reported of the blocks of a template is what their matching leaves over.** There
is one error for each `end` without an opener, on its line. The blocks that are said to be
unclosed are the openers without an `end`, in order, with their kinds and lines, and each has
one error of its own. So nothing at all is wrong exactly if the blocks are balanced and no
action is left open. -/
theorem Document.errors_of_matching (text path : String) :
    let d := Document.ofText text path
    (∃ places, ArePlaces (IsStray d.blockMarks) places ∧
      List.Forall₂ (fun j e => d.blockMarks[j]? = some (.closer e.line)) places
        (d.errors.filter fun e => decide (e.fault.message = "Unexpected end"))) ∧
    (∃ places, ArePlaces (IsUnclosed d.blockMarks) places ∧
      List.Forall₂ (fun i block => d.blockMarks[i]? = some (.opener block.1 block.2)) places
        d.unclosedBlocks) ∧
    (d.errors.filter fun e => Text.startsWith e.fault.message "Unclosed " &&
        Text.endsWith e.fault.message " block").map (fun e => (e.fault.message, e.line)) =
      d.unclosedBlocks.map (fun block => ("Unclosed " ++ block.1.label ++ " block", block.2)) ∧
    (d.errors = [] ↔ Balanced d.blockMarks ∧ d.unclosedAction = none) := by
  intro d
  obtain ⟨⟨hopenedOrder, -⟩, hstrayOrder, -⟩ := Ledger.pairwise_ofMarks d.blockMarks
  obtain ⟨hopened, hstray⟩ := Ledger.mem_ofMarks_iff d.blockMarks
  obtain ⟨hopenedShown, hstrayShown⟩ := Balance.forall₂_foldl_take d.blockMarks
  rw [← d.balance_eq] at hopenedShown hstrayShown
  refine ⟨⟨(Ledger.ofMarks d.blockMarks).stray.reverse, ⟨?_, ?_⟩, ?_⟩,
    ⟨(Ledger.ofMarks d.blockMarks).opened.reverse, ⟨?_, ?_⟩, ?_⟩, ?_, d.errors_eq_nil_iff⟩
  · exact List.pairwise_reverse.mpr hstrayOrder
  · simpa using hstray
  · rw [d.filter_errors_unexpectedEnd, List.forall₂_map_right_iff]
    exact List.rel_reverse hstrayShown
  · exact List.pairwise_reverse.mpr hopenedOrder
  · simpa using hopened
  · exact List.rel_reverse hopenedShown
  · rw [d.filter_errors_unclosedBlock, List.map_map]
    rfl

example : Balanced (Document.ofText "\x7b\x7b if a \x7d\x7d\x7b\x7b end \x7d\x7d" "").blockMarks ∧
    ¬Balanced (Document.ofText "\x7b\x7b end \x7d\x7d\x7b\x7b if a \x7d\x7d" "").blockMarks := by
  decide +kernel

end ContainerLint.Template
