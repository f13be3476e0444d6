/-
Variables that refer to each other in one instruction.

An instruction may set several variables, and a value may then refer to one that is set
before it, which does not work as it seems to. What a value refers to is a name: all the
word characters after a dollar sign, or all that braces after it hold.

The rule on such references searches each value for each key set before it, with a dollar
sign in front, and with braces around the key as well. It finds every reference. Without
braces it also finds a key that is only the front of a name, so that `$AB` counts as a
reference to `A`; and a key that is no name at all is found wherever it stands.
-/
import ContainerLint.Proofs.Rule.Registry
import ContainerLint.Proofs.Text.Stretch

namespace ContainerLint.Dockerfile

open ContainerLint.Text

/-! ## Names -/

/-- The text is the name of a variable: one or more word characters. -/
def IsVariableName (cs : List Char) : Prop :=
  cs ≠ [] ∧ ∀ c ∈ cs, isWordChar c = true

/-- The name that a text refers to after a dollar sign: the word characters up to the first
other character, or those in braces if nothing else is there. -/
def nameAfterDollar? : List Char → Option (List Char)
  | '{' :: rest =>
    if (rest.dropWhile isWordChar).head? = some '}' then some (rest.takeWhile isWordChar) else none
  | rest => some (rest.takeWhile isWordChar)

/-- The value refers to the variable. -/
def RefersToVariable (value key : List Char) : Prop :=
  key ≠ [] ∧ ∃ front rest, value = front ++ '$' :: rest ∧ nameAfterDollar? rest = some key

/-- The key stands after a dollar sign in the value, but is not the name there. -/
inductive OnlyLooksReferred (value key : List Char) : Prop
  /-- The name goes on. -/
  | longer {front back : List Char} {c : Char} : IsVariableName key →
      value = front ++ '$' :: (key ++ c :: back) → isWordChar c = true → OnlyLooksReferred value key
  /-- The key is no name. -/
  | notName {front back : List Char} : ¬ IsVariableName key →
      value = front ++ '$' :: (key ++ back) → OnlyLooksReferred value key
  /-- The key is no name, and stands in braces. -/
  | notNameInBraces {front back : List Char} : ¬ IsVariableName key →
      value = front ++ '$' :: '{' :: (key ++ '}' :: back) → OnlyLooksReferred value key

/-- A bare name goes as far as its characters do. -/
theorem nameAfterDollar?_plain {key back : List Char} (hkey : IsVariableName key)
    (hback : ∀ c ∈ back.head?, isWordChar c = false) :
    nameAfterDollar? (key ++ back) = some key := by
  obtain ⟨first, more, rfl⟩ := List.exists_cons_of_ne_nil hkey.1
  have hfirst : first ≠ '{' := by
    rintro rfl
    exact absurd (hkey.2 _ List.mem_cons_self) (by decide)
  rw [List.cons_append, nameAfterDollar?.eq_2 _ (by simpa using hfirst), ← List.cons_append,
    (span_append hkey.2 hback).1]

/-- A name in braces goes to the closing one. -/
theorem nameAfterDollar?_braced {key back : List Char} (hkey : IsVariableName key) :
    nameAfterDollar? ('{' :: (key ++ '}' :: back)) = some key := by
  have hback : ∀ c ∈ ('}' :: back).head?, isWordChar c = false := by
    rintro c ⟨⟩
    decide
  obtain ⟨htake, hdrop⟩ := span_append hkey.2 hback
  rw [nameAfterDollar?, hdrop, htake]
  rfl

/-- A name that is referred to is written out, alone or in braces. -/
theorem prefix_of_nameAfterDollar? {rest key : List Char} (h : nameAfterDollar? rest = some key) :
    key <+: rest ∨ '{' :: (key ++ ['}']) <+: rest := by
  unfold nameAfterDollar? at h
  split at h
  next rest =>
    split at h
    next hclosed =>
      obtain ⟨back, hback⟩ := List.head?_eq_some_iff.mp hclosed
      refine .inr ⟨back, ?_⟩
      rw [← Option.some.inj h, List.cons_append, List.append_assoc, List.singleton_append, ← hback,
        List.takeWhile_append_dropWhile]
    next => cases h
  next => exact .inl (Option.some.inj h ▸ List.takeWhile_prefix isWordChar)

/-! ## Searching for keys -/

/-- The rule looks for the key after a dollar, bare or in braces. -/
theorem refersTo_iff_isInfix {value key : String} : Node.refersTo value key = true ↔
    '$' :: key.toList <:+: value.toList ∨
      '$' :: '{' :: (key.toList ++ ['}']) <:+: value.toList := by
  rw [Node.refersTo, Bool.or_eq_true, Text.contains, Text.contains, occursIn_iff, occursIn_iff,
    String.toList_append, String.toList_append, String.toList_append]
  rfl

theorem isInfix_append_cons {c : Char} {piece rest : List Char} (front : List Char)
    (h : piece <+: rest) : c :: piece <:+: front ++ c :: rest :=
  ((List.prefix_cons_inj c).mpr h).isInfix.trans (List.suffix_append _ _).isInfix

/-- **What the search finds**: every reference, and what looks like one. -/
theorem refersTo_iff {value key : String} : Node.refersTo value key = true ↔
    RefersToVariable value.toList key.toList ∨ OnlyLooksReferred value.toList key.toList := by
  rw [refersTo_iff_isInfix]
  generalize value.toList = value
  generalize key.toList = key
  constructor
  · rintro (⟨front, back, rfl⟩ | ⟨front, back, rfl⟩)
    · rw [List.append_assoc, List.cons_append]
      by_cases hkey : IsVariableName key
      · -- the key is the name unless the name goes on behind it
        by_cases hback : ∀ c ∈ back.head?, isWordChar c = false
        · exact .inl ⟨hkey.1, front, _, rfl, nameAfterDollar?_plain hkey hback⟩
        · cases back with
          | nil => exact absurd nofun hback
          | cons c back => exact .inr (.longer hkey rfl (by simpa using hback))
      · exact .inr (.notName hkey rfl)
    · rw [List.append_assoc, List.cons_append, List.cons_append, List.append_assoc,
        List.singleton_append]
      by_cases hkey : IsVariableName key
      · exact .inl ⟨hkey.1, front, _, rfl, nameAfterDollar?_braced hkey⟩
      · exact .inr (.notNameInBraces hkey rfl)
  · rintro (⟨-, front, rest, rfl, hname⟩ | hlooks)
    · exact (prefix_of_nameAfterDollar? hname).imp (isInfix_append_cons front)
        (isInfix_append_cons front)
    · cases hlooks with
      | longer _ hvalue _ =>
        rw [hvalue]
        exact .inl (isInfix_append_cons _ (List.prefix_append _ _))
      | notName _ hvalue =>
        rw [hvalue]
        exact .inl (isInfix_append_cons _ (List.prefix_append _ _))
      | @notNameInBraces front back _ hvalue =>
        rw [hvalue]
        exact .inr (isInfix_append_cons _ ⟨back, by simp⟩)

/-! ## Keys that are set before -/

/-- The node sets variables, and the value of one and the key of another that is set before
it are related. -/
def RelatesToEarlierKey (related : List Char → List Char → Prop) (n : Node) : Prop :=
  ∃ pairs, n.instruction = .env pairs ∧ ∃ (i j : Nat) (earlier later : String × String), i < j ∧
    pairs[i]? = some earlier ∧ pairs[j]? = some later ∧ related later.2.toList earlier.1.toList

/-- The keys that are seen are those set before and those that were there already. -/
theorem selfContained_iff {seen : List String} {pairs : List (String × String)} :
    Node.selfContained seen pairs = true ↔
      (∀ pair ∈ pairs, ∀ key ∈ seen, ¬ Node.refersTo pair.2 key = true) ∧
        pairs.Pairwise fun earlier later => ¬ Node.refersTo later.2 earlier.1 = true := by
  induction pairs generalizing seen with
  | nil => exact iff_of_true rfl ⟨nofun, .nil⟩
  | cons pair pairs ih =>
    obtain ⟨key, value⟩ := pair
    rw [Node.selfContained, Bool.and_eq_true, ih, List.pairwise_cons, List.forall_mem_cons]
    simp only [List.forall_mem_append, List.forall_mem_singleton, forall_and, Bool.not_eq_true',
      List.any_eq_false]
    exact ⟨fun ⟨hfirst, ⟨hseen, hkey⟩, hrest⟩ => ⟨⟨hfirst, hseen⟩, hkey, hrest⟩,
      fun ⟨⟨hfirst, hseen⟩, hkey, hrest⟩ => ⟨hfirst, ⟨hseen, hkey⟩, hrest⟩⟩

/-- The rule reports a pair that refers to an earlier key. -/
theorem avoidsSelfReference_eq_false_iff {n : Node} : n.avoidsSelfReference = false ↔
    ∃ pairs, n.instruction = .env pairs ∧
      ¬ pairs.Pairwise fun earlier later => ¬ Node.refersTo later.2 earlier.1 = true := by
  unfold Node.avoidsSelfReference
  cases n.instruction with
  | env pairs =>
    simp only [Instruction.env.injEq, exists_eq_left']
    rw [← Bool.not_eq_true, selfContained_iff]
    simp
  | _ => simp

/-- **Where the search finds a key**: in the value of a later pair. -/
theorem avoidsSelfReference_eq_false_iff_relates {n : Node} : n.avoidsSelfReference = false ↔
    RelatesToEarlierKey RefersToVariable n ∨ RelatesToEarlierKey OnlyLooksReferred n := by
  have hor : RelatesToEarlierKey RefersToVariable n ∨ RelatesToEarlierKey OnlyLooksReferred n ↔
      RelatesToEarlierKey (fun value key => RefersToVariable value key ∨ OnlyLooksReferred value key)
        n := by
    simp only [RelatesToEarlierKey, and_or_left, exists_or]
  rw [hor, avoidsSelfReference_eq_false_iff]
  refine exists_congr fun pairs => and_congr_right fun _ => ?_
  rw [List.pairwise_iff_getElem]
  simp only [not_forall, not_not, refersTo_iff]
  constructor
  · rintro ⟨i, j, hi, hj, hij, hrelated⟩
    exact ⟨i, j, pairs[i], pairs[j], hij, List.getElem?_eq_getElem hi, List.getElem?_eq_getElem hj,
      hrelated⟩
  · rintro ⟨i, j, earlier, later, hij, hi, hj, hrelated⟩
    obtain ⟨hilt, rfl⟩ := List.getElem?_eq_some_iff.mp hi
    obtain ⟨hjlt, rfl⟩ := List.getElem?_eq_some_iff.mp hj
    exact ⟨i, j, hilt, hjlt, hij, hrelated⟩

/-! ## The rule -/

/-- **Variables that are used where they are set.** An instruction is reported exactly if
one of its values refers to a key that is set before it, or only looks as if it did: the
key stands after a dollar sign there, but is the front of a longer name, or is no name. -/
theorem selfReferences_reported (options : RuleOptions) (nodes : List (Nat × Node)) :
    ∃ t, Catalogue.bundled.run? "DL3044" options nodes = some (.ok t) ∧
      t.ReportsExactly nodes fun _ n =>
        RelatesToEarlierKey RefersToVariable n ∨ RelatesToEarlierKey OnlyLooksReferred n := by
  obtain ⟨t, ht, hreports⟩ :=
    Checker.exists_reportsExactly_ofCondition Node.avoidsSelfReference nodes
  simp only [avoidsSelfReference_eq_false_iff_relates] at hreports
  exact ⟨t, congrArg some ht, hreports⟩

/-- The value `$AB` refers to `AB`, which is not set before it. It is reported all the same,
since `A` is. -/
theorem longer_name_reported :
    Catalogue.bundled.run? "DL3044" [] [(1, ⟨.env [("A", "1"), ("B", "$AB")], none⟩)] =
        some (.ok ⟨[[⟨1, none, none⟩]], []⟩) ∧
      ¬ RelatesToEarlierKey RefersToVariable ⟨.env [("A", "1"), ("B", "$AB")], none⟩ := by
  refine ⟨rfl, ?_⟩
  rintro ⟨pairs, hpairs, i, j, earlier, later, hij, hi, hj, -, front, rest, hvalue, hname⟩
  cases hpairs
  match j with
  | 0 => exact absurd hij (Nat.not_lt_zero i)
  | 1 =>
    obtain rfl : i = 0 := Nat.lt_one_iff.mp hij
    cases hi
    cases hj
    have hvalue : ['$', 'A', 'B'] = front ++ '$' :: rest := hvalue
    cases front with
    | nil =>
      cases hvalue
      exact absurd hname (by decide)
    | cons c front =>
      -- there is no second dollar sign
      have hmem : '$' ∈ ['A', 'B'] := (List.cons.inj hvalue).2 ▸ List.mem_append_right _ (by simp)
      exact absurd hmem (by decide)
  | j + 2 => cases hj

end ContainerLint.Dockerfile
