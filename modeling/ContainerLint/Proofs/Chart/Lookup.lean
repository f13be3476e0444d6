/-
Looking up the values of a chart under their paths.

A path is taken apart at its dots, and the parts are looked up from the outermost mapping
inwards: as a text, and if there is no such key, as what a key reads like. The path of a key
leads back to it if no key on the way has a dot in it, the first is not empty unless it stands
alone, and each is the one that is found under its text (`Trail.IsFindable`). Otherwise it
leads to another key, or to none (`get_cases`).

A part leads from a tree to one key of its outermost mapping (`child?_value_cases`), and the
parts of a path, by induction on them, to one trail (`descend_value`).
-/
import ContainerLint.Proofs.Chart.Trail

namespace ContainerLint.Chart

open ContainerLint.Text ContainerLint.Yaml

/-! ## One part -/

namespace Step

/-- The entry of the key. -/
def entry (s : Step) : Value × Nat × Tree :=
  (s.key, s.line, s.inner)

/-- The entries of the mapping that the key is in. -/
def entries (s : Step) : List (Value × Nat × Tree) :=
  s.before ++ s.entry :: s.after

/-- The key is found under a text: it is the first that is the text, or there is none and it
is the first that reads like it. -/
inductive IsFound (s : Step) (text : String) : Prop
  | named : s.key = .text text → (∀ e ∈ s.before, e.1 ≠ .text text) → s.IsFound text
  | alike : (∀ e ∈ s.entries, e.1 ≠ .text text) → s.key.plain = .ok text →
      (∀ e ∈ s.before, e.1.plain ≠ .ok text) → s.IsFound text

theorem entry_mem_entries (s : Step) : s.entry ∈ s.entries :=
  List.mem_append_right _ List.mem_cons_self

/-- A step is known by its entry and the entries around it. -/
theorem ext_of_entries {s s' : Step} (hbefore : s.before = s'.before) (hentry : s.entry = s'.entry)
    (hafter : s.after = s'.after) : s = s' := by
  obtain ⟨before, key, line, inner, after⟩ := s
  obtain ⟨before', key', line', inner', after'⟩ := s'
  cases hbefore
  cases hentry
  cases hafter
  rfl

/-- The first entry of a kind stands at one place. -/
theorem eq_of_first {s s' : Step} {p : Value × Nat × Tree → Prop} (hentries : s.entries = s'.entries)
    (hs : p s.entry) (hbefore : ∀ e ∈ s.before, ¬p e) (hs' : p s'.entry)
    (hbefore' : ∀ e ∈ s'.before, ¬p e) : s = s' := by
  -- two cuts of one list before the first entry of a kind are the same
  have hsplit : ∀ (before before' : List (Value × Nat × Tree)),
      before ++ s.entry :: s.after = before' ++ s'.entry :: s'.after →
      (∀ e ∈ before, ¬p e) → (∀ e ∈ before', ¬p e) →
        before = before' ∧ s.entry = s'.entry ∧ s.after = s'.after := by
    intro before
    induction before with
    | nil =>
      intro before' hsame _ hbefore'
      cases before' with
      | nil => exact ⟨rfl, List.cons.inj hsame⟩
      | cons first before' =>
        obtain ⟨hfirst, -⟩ := List.cons.inj hsame
        exact absurd (hfirst ▸ hs) (hbefore' first List.mem_cons_self)
    | cons first before ih =>
      intro before' hsame hbefore hbefore'
      cases before' with
      | nil =>
        obtain ⟨hfirst, -⟩ := List.cons.inj hsame
        exact absurd (hfirst ▸ hs') (hbefore first List.mem_cons_self)
      | cons first' before' =>
        obtain ⟨rfl, hrest⟩ := List.cons.inj hsame
        obtain ⟨rfl, hothers⟩ := ih before' hrest (List.forall_mem_cons.mp hbefore).2
          (List.forall_mem_cons.mp hbefore').2
        exact ⟨rfl, hothers⟩
  obtain ⟨hb, he, ha⟩ := hsplit s.before s'.before hentries hbefore hbefore'
  exact ext_of_entries hb he ha

namespace IsFound

variable {s s' : Step} {text : String}

/-- A key that is found by a text reads like it. -/
theorem plain_eq (h : s.IsFound text) : s.key.plain = .ok text := by
  cases h with
  | named hkey _ => exact congrArg Value.plain hkey
  | alike _ hplain _ => exact hplain

/-- One key of a mapping is found under a text. -/
theorem eq_of_entries_eq (h : s.IsFound text) (h' : s'.IsFound text)
    (hentries : s.entries = s'.entries) : s = s' := by
  cases h with
  | named hkey hbefore =>
    cases h' with
    | named hkey' hbefore' => exact eq_of_first hentries hkey hbefore hkey' hbefore'
    | alike hnone _ _ => exact absurd hkey (hnone _ (hentries ▸ s.entry_mem_entries))
  | alike hnone hplain hbefore =>
    cases h' with
    | named hkey' _ => exact absurd hkey' (hnone _ (hentries ▸ s'.entry_mem_entries))
    | alike _ hplain' hbefore' =>
      exact eq_of_first (p := fun e => e.1.plain = .ok text) hentries hplain hbefore hplain' hbefore'

end IsFound

end Step

/-- The steps into a mapping are its entries, each with those around it. -/
theorem mem_stepsOf_mapping_iff {entries : List (Value × Nat × Tree)} {s : Step} :
    s ∈ stepsOf (.mapping entries) ↔ s.entries = entries := by
  -- the induction keeps what lies before; the middle is what it has passed
  have hfrom : ∀ entries before, s ∈ stepsFrom before entries ↔
      ∃ middle, s.before = before ++ middle ∧ middle ++ s.entry :: s.after = entries := by
    intro entries
    induction entries with
    | nil => simp [stepsFrom]
    | cons entry rest ih =>
      intro before
      rw [stepsFrom, List.mem_cons, ih]
      constructor
      · rintro (rfl | ⟨middle, hbefore, hmiddle⟩)
        · exact ⟨[], (List.append_nil _).symm, rfl⟩
        · refine ⟨entry :: middle, ?_, congrArg _ hmiddle⟩
          rw [hbefore, List.append_assoc, List.singleton_append]
      · rintro ⟨middle, hbefore, hmiddle⟩
        cases middle with
        | nil =>
          obtain ⟨hentry, hafter⟩ := List.cons.inj hmiddle
          exact .inl (Step.ext_of_entries (hbefore.trans (List.append_nil _)) hentry hafter)
        | cons first middle =>
          obtain ⟨rfl, hrest⟩ := List.cons.inj hmiddle
          refine .inr ⟨middle, ?_, hrest⟩
          rw [hbefore, List.append_assoc, List.singleton_append]
  refine (hfrom entries []).trans ?_
  constructor
  · rintro ⟨middle, hbefore, hmiddle⟩
    rw [Step.entries, hbefore]
    exact hmiddle
  · exact fun h => ⟨s.before, rfl, h⟩

/-- A text finds at most one key. -/
theorem Step.IsFound.unique {tree : Tree} {s s' : Step} {text : String} (h : s.IsFound text)
    (hs : s ∈ stepsOf tree) (h' : s'.IsFound text) (hs' : s' ∈ stepsOf tree) : s = s' := by
  cases tree with
  | leaf v isLeaf => exact absurd hs List.not_mem_nil
  | mapping entries =>
    exact h.eq_of_entries_eq h'
      ((mem_stepsOf_mapping_iff.mp hs).trans (mem_stepsOf_mapping_iff.mp hs').symm)

theorem plain_toOption_iff {key : Value} {text : String} :
    (key.plain.toOption == some text) = true ↔ key.plain = .ok text := by
  cases key.plain <;> simp [Except.toOption]

/-- Keys of that very text are found in the tree as they are in the value. -/
theorem find?_valuesOf (text : String) (entries : List (Value × Nat × Tree)) :
    Value.find? (.text text) (Tree.valuesOf entries) =
      (entries.find? fun e => e.1.same (.text text)).map (·.2.2.value) := by
  induction entries with
  | nil => rfl
  | cons entry rest ih =>
    obtain ⟨key, line, inner⟩ := entry
    rw [Tree.valuesOf, Value.find?, List.find?_cons, ih]
    cases key.same (.text text) <;> rfl

/-- So are keys that read like the text. -/
theorem find?_plain_valuesOf (text : String) (entries : List (Value × Nat × Tree)) :
    ((Tree.valuesOf entries).find? fun e => e.1.plain.toOption == some text).map (·.2) =
      (entries.find? fun e => e.1.plain.toOption == some text).map (·.2.2.value) := by
  induction entries with
  | nil => rfl
  | cons entry rest ih =>
    obtain ⟨key, line, inner⟩ := entry
    rw [Tree.valuesOf, List.find?_cons, List.find?_cons]
    dsimp only
    cases key.plain.toOption == some text
    · exact ih
    · rfl

/-- **What is found under a part** is the value of the key that is found under it. -/
theorem child?_value_cases (tree : Tree) (text : String) :
    (Values.child? text tree.value = none ∧ ∀ s ∈ stepsOf tree, ¬s.IsFound text) ∨
      ∃ s ∈ stepsOf tree, s.IsFound text ∧ Values.child? text tree.value = some s.inner.value := by
  cases tree with
  | leaf v isLeaf =>
    refine .inl ⟨?_, fun _ hs => absurd hs List.not_mem_nil⟩
    rw [Tree.value]
    cases v with
    | map entries => exact absurd rfl (isLeaf entries)
    | _ => rfl
  | mapping entries =>
    have hchild : Values.child? text (Tree.mapping entries).value =
        ((entries.find? fun e => e.1.same (.text text)).map (·.2.2.value)).or
          ((entries.find? fun e => e.1.plain.toOption == some text).map (·.2.2.value)) := by
      rw [← find?_valuesOf, ← find?_plain_valuesOf, Tree.value, Values.child?]
      cases Value.find? (.text text) (Tree.valuesOf entries) <;> rfl
    rw [hchild]
    -- a key of that very text comes first, and one that reads like it second
    cases hnamed : entries.find? fun e => e.1.same (.text text) with
    | some e =>
      obtain ⟨he, before, after, rfl, hbefore⟩ := List.find?_eq_some_iff_append.mp hnamed
      refine .inr ⟨⟨before, e.1, e.2.1, e.2.2, after⟩, mem_stepsOf_mapping_iff.mpr rfl, ?_, rfl⟩
      refine .named (Value.same_text_iff.mp he) fun e he hkey => ?_
      simpa [Value.same_text_iff.mpr hkey] using hbefore e he
    | none =>
      have hnone : ∀ e ∈ entries, e.1 ≠ .text text := fun e he hkey =>
        List.find?_eq_none.mp hnamed e he (Value.same_text_iff.mpr hkey)
      cases halike : entries.find? fun e => e.1.plain.toOption == some text with
      | some e =>
        obtain ⟨he, before, after, rfl, hbefore⟩ := List.find?_eq_some_iff_append.mp halike
        refine .inr ⟨⟨before, e.1, e.2.1, e.2.2, after⟩, mem_stepsOf_mapping_iff.mpr rfl, ?_, rfl⟩
        refine .alike hnone (plain_toOption_iff.mp he) fun e he hplain => ?_
        simpa [plain_toOption_iff.mpr hplain] using hbefore e he
      | none =>
        refine .inl ⟨rfl, fun s hs hfound => ?_⟩
        obtain rfl := mem_stepsOf_mapping_iff.mp hs
        exact List.find?_eq_none.mp halike s.entry s.entry_mem_entries
          (plain_toOption_iff.mpr hfound.plain_eq)

/-! ## Whole paths -/

/-- The trail is one of the tree, and its keys are found under the parts. -/
def Trail.IsFoundIn (tree : Tree) (t : Trail) (parts : List String) : Prop :=
  t ∈ trails tree ∧ List.Forall₂ Step.IsFound t.steps parts

section Parts

variable {tree : Tree} {t : Trail} {part next : String} {parts : List String}

theorem Trail.steps_ne_nil (t : Trail) : t.steps ≠ [] :=
  List.append_ne_nil_of_right_ne_nil _ (List.cons_ne_nil _ _)

/-- One part finds the keys that it finds as a text. -/
theorem Trail.isFoundIn_single_iff :
    t.IsFoundIn tree [part] ↔ ∃ s ∈ stepsOf tree, s.IsFound part ∧ ⟨[], s⟩ = t := by
  constructor
  · rintro ⟨ht, hfound⟩
    obtain ⟨s, hs, rfl | ⟨t', -, rfl⟩⟩ := mem_trails_iff.mp ht
    · exact ⟨s, hs, (List.forall₂_cons.mp hfound).1, rfl⟩
    · obtain ⟨-, hrest⟩ := List.forall₂_cons.mp hfound
      exact absurd (List.forall₂_nil_right_iff.mp hrest) t'.steps_ne_nil
  · rintro ⟨s, hs, hfound, rfl⟩
    exact ⟨mem_trails_nil_iff.mpr hs, .cons hfound .nil⟩

/-- More parts find a key inside of what the first one finds. -/
theorem Trail.isFoundIn_cons_iff : t.IsFoundIn tree (part :: next :: parts) ↔
    ∃ s ∈ stepsOf tree, s.IsFound part ∧
      ∃ t' : Trail, t'.IsFoundIn s.inner (next :: parts) ∧ t'.enter s = t := by
  constructor
  · rintro ⟨ht, hfound⟩
    obtain ⟨s, hs, rfl | ⟨t', ht', rfl⟩⟩ := mem_trails_iff.mp ht
    · obtain ⟨-, hrest⟩ := List.forall₂_cons.mp hfound
      cases hrest
    · obtain ⟨hpart, hrest⟩ := List.forall₂_cons.mp hfound
      exact ⟨s, hs, hpart, t', ⟨ht', hrest⟩, rfl⟩
  · rintro ⟨s, hs, hpart, t', ⟨ht', hrest⟩, rfl⟩
    exact ⟨mem_trails_iff.mpr ⟨s, hs, .inr ⟨t', ht', rfl⟩⟩, .cons hpart hrest⟩

end Parts

/-- **Where parts lead**: to the one trail whose keys are found under them, or to nothing. -/
theorem descend_value (tree : Tree) (part : String) (parts : List String) :
    ∃ found : Option Trail,
      Values.descend tree.value (part :: parts) = found.elim .null Trail.value ∧
        ∀ t, found = some t ↔ t.IsFoundIn tree (part :: parts) := by
  induction parts generalizing tree part with
  | nil =>
    rw [Values.descend]
    rcases child?_value_cases tree part with ⟨hchild, hnone⟩ | ⟨s, hs, hfound, hchild⟩
    · rw [hchild]
      refine ⟨none, rfl, fun t => iff_of_false (by simp) fun ht => ?_⟩
      obtain ⟨s, hs, hfound, -⟩ := Trail.isFoundIn_single_iff.mp ht
      exact hnone s hs hfound
    · rw [hchild]
      refine ⟨some ⟨[], s⟩, rfl, fun t => ?_⟩
      rw [Option.some_inj, Trail.isFoundIn_single_iff]
      constructor
      · exact fun ht => ⟨s, hs, hfound, ht⟩
      · rintro ⟨s', hs', hfound', rfl⟩
        rw [hfound.unique hs hfound' hs']
  | cons next parts ih =>
    rw [Values.descend]
    rcases child?_value_cases tree part with ⟨hchild, hnone⟩ | ⟨s, hs, hfound, hchild⟩
    · rw [hchild]
      refine ⟨none, rfl, fun t => iff_of_false (by simp) fun ht => ?_⟩
      obtain ⟨s, hs, hfound, -⟩ := Trail.isFoundIn_cons_iff.mp ht
      exact hnone s hs hfound
    -- what the first part finds is unique, so the rest is looked for inside of it
    · obtain ⟨found, hvalue, hiff⟩ := ih s.inner next
      rw [hchild]
      refine ⟨found.map (Trail.enter s), hvalue.trans (by cases found <;> rfl), fun t => ?_⟩
      rw [Option.map_eq_some_iff, Trail.isFoundIn_cons_iff]
      constructor
      · rintro ⟨t', ht', rfl⟩
        exact ⟨s, hs, hfound, t', (hiff t').mp ht', rfl⟩
      · rintro ⟨s', hs', hfound', t', ht', rfl⟩
        obtain rfl := hfound.unique hs hfound' hs'
        exact ⟨t', (hiff t').mpr ht', rfl⟩

/-! ## Paths that lead back -/

/-- The path of the trail leads back to it: its keys are found under their texts, which are
without dots, and the first is not empty unless it is the only one. -/
def Trail.IsFindable (t : Trail) : Prop :=
  ∃ texts, List.Forall₂ Step.IsFound t.steps texts ∧ (∀ text ∈ texts, '.' ∉ text.toList) ∧
    (texts.head? = some "" → t.around = [])

/-- The parts of a path. -/
def partsOf (path : String) : List String :=
  (splitAtChar '.' path.toList).map String.ofList

/-- **A path falls into the texts that it is made of**, if they are without dots. -/
theorem partsOf_eq_iff {texts : List String} {path : String} (hne : texts ≠ []) :
    partsOf path = texts ↔ (∀ text ∈ texts, '.' ∉ text.toList) ∧
      path.toList = join ['.'] (texts.map String.toList) := by
  constructor
  · rintro rfl
    have htexts : (partsOf path).map String.toList = splitAtChar '.' path.toList := by
      rw [partsOf, List.map_map]
      exact (List.map_congr_left fun _ _ => String.toList_ofList).trans (List.map_id _)
    constructor
    · intro text htext hdot
      have hpiece : text.toList ∈ splitAtChar '.' path.toList := htexts ▸ List.mem_map_of_mem htext
      exact (mem_of_mem_splitAtChar hpiece hdot).2 rfl
    · rw [htexts, join_splitAtChar]
  · rintro ⟨hdots, hpath⟩
    rw [partsOf, hpath, splitAtChar_join (List.forall_mem_map.mpr hdots) (by simpa using hne),
      List.map_map]
    exact (List.map_congr_left fun _ _ => String.ofList_toList).trans (List.map_id _)

/-- Empty texts in front are left out of a path. -/
theorem path_suffix (texts : List String) :
    (texts.foldl extendPath "").toList <:+ join ['.'] (texts.map String.toList) := by
  induction texts with
  | nil => exact List.suffix_refl _
  | cons text texts ih =>
    by_cases htext : text = ""
    · subst htext
      refine ih.trans ?_
      cases texts with
      | nil => exact List.suffix_refl _
      | cons next texts => exact List.suffix_append _ _
    · exact ⟨[], toList_path htext texts⟩

/-- The texts are joined by dots to a path, unless the first is left out. -/
theorem path_eq_join_iff {first : String} {rest : List String} :
    ((first :: rest).foldl extendPath "").toList =
      join ['.'] ((first :: rest).map String.toList) ↔ (first = "" → rest = []) := by
  by_cases hfirst : first = ""
  · subst hfirst
    cases rest with
    | nil => exact iff_of_true rfl fun _ => rfl
    | cons next rest =>
      refine iff_of_false (fun hjoin => ?_) (by simp)
      -- the path of the other texts is no longer than they are, and a dot is missing
      have hle := (path_suffix (next :: rest)).length_le
      have hlength := congrArg List.length hjoin
      rw [List.map_cons, join_cons_of_ne_nil _ _ (by simp), List.length_append] at hlength
      exact absurd (hlength ▸ hle) (by simp)
  · exact iff_of_true (toList_path hfirst rest) fun h => absurd h hfirst

/-- **The path of a trail leads back to it exactly if the trail is findable.** -/
theorem Trail.forall₂_partsOf_iff {t : Trail} {path : String} (hpath : t.HasPath path) :
    List.Forall₂ Step.IsFound t.steps (partsOf path) ↔ t.IsFindable := by
  obtain ⟨texts, htexts, rfl⟩ := t.hasPath_iff.mp hpath
  -- the texts of the keys are determined, and the parts of the path must be them
  have hsame : ∀ texts', List.Forall₂ Step.IsFound t.steps texts' → texts' = texts := by
    intro texts' hfound
    refine List.right_unique_forall₂' ?_ (hfound.imp fun _ _ h => h.plain_eq) htexts
    exact fun _ _ _ h h' => Except.ok.inj (h.symm.trans h')
  have hlength := htexts.length_eq
  rw [Trail.steps, List.length_append, List.length_singleton] at hlength
  cases texts with
  | nil => cases hlength
  | cons first rest =>
    have hhead : (first = "" → rest = []) ↔ ((first :: rest).head? = some "" → t.around = []) := by
      rw [List.head?_cons, Option.some_inj, ← List.length_eq_zero_iff, ← List.length_eq_zero_iff,
        Nat.succ.inj hlength]
    have hparts : partsOf ((first :: rest).foldl extendPath "") = first :: rest ↔
        (∀ text ∈ first :: rest, '.' ∉ text.toList) ∧
          ((first :: rest).head? = some "" → t.around = []) := by
      rw [partsOf_eq_iff (List.cons_ne_nil first rest), path_eq_join_iff, hhead]
    constructor
    · intro hfound
      obtain ⟨hdots, hfirst⟩ := hparts.mp (hsame _ hfound)
      exact ⟨first :: rest, hsame _ hfound ▸ hfound, hdots, hfirst⟩
    · rintro ⟨texts', hfound, hdots, hfirst⟩
      obtain rfl := hsame texts' hfound
      rwa [hparts.mpr ⟨hdots, hfirst⟩]

/-- **What is found under the path of a trail**: its value if the trail is findable, and
otherwise null or the value of another trail. -/
theorem get_cases {values : Values} {tree : Tree} (hvalue : values.value = tree.value) {t : Trail}
    {path : String} (ht : t ∈ trails tree) (hpath : t.HasPath path) :
    (t.IsFindable ∧ values.get path = t.value) ∨
      (¬t.IsFindable ∧ (values.get path = .null ∨
        ∃ t' ∈ trails tree, t' ≠ t ∧ values.get path = t'.value)) := by
  obtain ⟨part, parts, hparts⟩ : ∃ part parts, partsOf path = part :: parts :=
    List.exists_cons_of_ne_nil (by simp [partsOf, splitAtChar_ne_nil])
  obtain ⟨found, hget, hfound⟩ := descend_value tree part parts
  rw [← hvalue, ← hparts] at hget
  rw [← hparts] at hfound
  change values.get path = _ at hget
  by_cases hfindable : t.IsFindable
  -- what is found is unique, so a findable trail is what its path finds
  · have hself := (hfound t).mpr ⟨ht, (Trail.forall₂_partsOf_iff hpath).mpr hfindable⟩
    exact .inl ⟨hfindable, by rw [hget, hself]; rfl⟩
  · refine .inr ⟨hfindable, ?_⟩
    cases found with
    | none => exact .inl hget
    | some t' =>
      obtain ⟨ht', hsteps⟩ := (hfound t').mp rfl
      refine .inr ⟨t', ht', ?_, hget⟩
      rintro rfl
      exact hfindable ((Trail.forall₂_partsOf_iff hpath).mp hsteps)

/-! ## Keys of recorded paths -/

/-- The path is recorded for the key that the trail leads to: no later one has the path. -/
def IsRecordedFor (tree : Tree) (path : String) (t : Trail) : Prop :=
  ∃ front back, trails tree = front ++ t :: back ∧ t.HasPath path ∧ ∀ t' ∈ back, ¬t'.HasPath path

/-- A path that some trail has is recorded for the last of them. -/
theorem exists_isRecordedFor_iff {tree : Tree} {path : String} :
    (∃ t, IsRecordedFor tree path t) ↔ ∃ t ∈ trails tree, t.HasPath path := by
  -- of the trails with the path, the last one is looked for
  have hlast : ∀ ts : List Trail, (∃ t ∈ ts, t.HasPath path) →
      ∃ front t back, ts = front ++ t :: back ∧ t.HasPath path ∧ ∀ t' ∈ back, ¬t'.HasPath path := by
    intro ts
    induction ts with
    | nil => simp
    | cons t ts ih =>
      intro h
      by_cases hmore : ∃ t' ∈ ts, t'.HasPath path
      · obtain ⟨front, t', back, rfl, ht'⟩ := ih hmore
        exact ⟨t :: front, t', back, rfl, ht'⟩
      · obtain ⟨t', ht', hpath⟩ := h
        rcases List.mem_cons.mp ht' with rfl | ht'
        · exact ⟨[], t', ts, rfl, hpath, fun t ht hpath => hmore ⟨t, ht, hpath⟩⟩
        · exact absurd ⟨t', ht', hpath⟩ hmore
  constructor
  · rintro ⟨t, front, back, htrails, hpath, -⟩
    exact ⟨t, htrails ▸ List.mem_append_right _ List.mem_cons_self, hpath⟩
  · intro h
    obtain ⟨front, t, back, htrails, ht⟩ := hlast _ h
    exact ⟨t, front, back, htrails, ht⟩

/-- The tree is read from a document; an empty document has no keys. -/
def IsReadFrom (tree : Tree) (text : String) : Prop :=
  loadOutlined text = .ok (tree.value, tree.outline) ∨
    (∃ o, loadOutlined text = .ok (.null, o)) ∧ tree = .mapping []

/-- **Values that are read are those of a tree.** -/
theorem exists_tree_of_ofText {text : String} {values : Values}
    (h : Values.ofText text = .ok values) : ∃ tree, IsReadFrom tree text ∧ values.AreOf tree := by
  unfold Values.ofText at h
  split at h
  next => cases h
  next o hload =>
    obtain rfl := Except.ok.inj h
    exact ⟨.mapping [], .inr ⟨⟨o, hload⟩, rfl⟩, rfl, [], rfl, rfl⟩
  next entries o hload =>
    obtain ⟨tree, hvalue, houtline⟩ := ensures_loadOutlined text _ hload
    split at h
    next => cases h
    split at h
    next => cases h
    next recorded hrecorded =>
      obtain rfl := Except.ok.inj h
      refine ⟨tree, .inl ?_, hvalue.symm, recorded, houtline ▸ hrecorded, rfl⟩
      rw [hload, hvalue, houtline]
  next => cases h

end ContainerLint.Chart
