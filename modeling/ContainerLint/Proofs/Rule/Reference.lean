/-
References to values, and the values they refer to.

Two rules compare the references of templates with the paths of the values. One reports the
references to values that are not defined, the other the values that are never used. They are
dual: there is one relation between references and paths, to be about the same value or about
a value inside the other's, and the first rule reports the references without a path, the
second the paths without a reference.

The first rule does not look for that relation. It looks up the reference and the paths around
it, and so never sees that a path is inside of what is referred to. It does not have to: the
paths around a path are recorded as well, for keys without dots, and so the reference itself
is recorded if anything inside it is (`mem_paths_of_isAround`).
-/
import ContainerLint.Proofs.Chart.Trail
import ContainerLint.Proofs.Rule.Run

namespace ContainerLint.Chart

open ContainerLint.Text ContainerLint.Yaml

/-- The second text begins with the first and a dot. -/
def IsAround (outer inner : String) : Prop :=
  outer.toList ++ ['.'] <+: inner.toList

/-- A reference and a path are about the same value, or one is about a value inside the other's. -/
def IsAbout (reference path : String) : Prop :=
  reference = path ∨ IsAround path reference ∨ IsAround reference path

instance (outer inner : String) : Decidable (IsAround outer inner) :=
  inferInstanceAs (Decidable (_ <+: _))

instance (reference path : String) : Decidable (IsAbout reference path) :=
  inferInstanceAs (Decidable (_ ∨ _))

/-- A reference touches a path if it is about it. -/
theorem touches_iff {reference path : String} :
    touches reference path = true ↔ IsAbout reference path := by
  simp only [touches, startsWith, Bool.or_eq_true, beq_iff_eq, List.isPrefixOf_iff_prefix,
    String.toList_append, or_assoc]
  rfl

/-! ## Paths around a path -/

/-- The paths around a reference are itself and those that it goes on from, part by part. -/
theorem mem_pathsAround_iff {path r : String} :
    path ∈ pathsAround r ↔ path = r ∨ IsAround path r := by
  unfold pathsAround IsAround
  dsimp only
  rw [List.mem_map]
  constructor
  · rintro ⟨n, hn, rfl⟩
    rw [List.mem_range] at hn
    rcases Nat.eq_or_lt_of_le (Nat.succ_le_of_lt hn) with hlast | hlt
    · refine .inl ?_
      rw [← Nat.succ_eq_add_one, hlast, List.take_length, join_splitAtChar, String.ofList_toList]
    · refine .inr ⟨join ['.'] ((splitAtChar '.' r.toList).drop (n + 1)), ?_⟩
      have htake : (splitAtChar '.' r.toList).take (n + 1) ≠ [] := by
        simp [splitAtChar_ne_nil]
      have hdrop : (splitAtChar '.' r.toList).drop (n + 1) ≠ [] := by
        simpa using hlt
      rw [String.toList_ofList, ← join_append _ htake hdrop, List.take_append_drop,
        join_splitAtChar]
  · -- the pieces of the path are the first ones of what it is around
    intro h
    obtain ⟨back, hparts⟩ : ∃ back,
        splitAtChar '.' r.toList = splitAtChar '.' path.toList ++ back := by
      rcases h with rfl | ⟨back, hback⟩
      · exact ⟨[], (List.append_nil _).symm⟩
      · refine ⟨splitAtChar '.' back, ?_⟩
        rw [← hback, List.append_assoc]
        exact splitAtChar_append_cons '.' path.toList back
    have hpos := List.length_pos_of_ne_nil (splitAtChar_ne_nil '.' path.toList)
    refine ⟨(splitAtChar '.' path.toList).length - 1, ?_, ?_⟩
    · rw [List.mem_range, hparts, List.length_append]
      omega
    · rw [Nat.sub_add_cancel hpos, hparts, List.take_left, join_splitAtChar, String.ofList_toList]

/-! ## Keys without dots -/

/-- The key is written without a dot, and not as an empty text. -/
def IsPlainKey (key : Value) : Prop :=
  ∃ text, key.plain = .ok text ∧ text ≠ "" ∧ '.' ∉ text.toList

section Plain

variable {values : Values} {tree : Tree}

/-- The texts of the keys of a trail, with dots between them, are its path. -/
theorem Trail.exists_texts_of_plain {t : Trail} {path : String}
    (hkeys : ∀ s ∈ t.steps, IsPlainKey s.key) (hpath : t.HasPath path) :
    ∃ texts, t.HasTexts texts ∧ path.toList = join ['.'] (texts.map String.toList) ∧
      texts ≠ [] ∧ ∀ text ∈ texts, text ≠ "" ∧ '.' ∉ text.toList := by
  obtain ⟨texts, htexts, rfl⟩ := t.hasPath_iff.mp hpath
  have hplain : ∀ text ∈ texts, text ≠ "" ∧ '.' ∉ text.toList := by
    intro text htext
    obtain ⟨s, hs, hplain⟩ := exists_of_mem_right htexts htext
    obtain ⟨text', hplain', hne, hdot⟩ := hkeys s hs
    obtain rfl : text = text' := Except.ok.inj (hplain.symm.trans hplain')
    exact ⟨hne, hdot⟩
  cases texts with
  | nil =>
    have hlength := htexts.length_eq
    simp [Trail.steps] at hlength
  | cons first texts =>
    exact ⟨first :: texts, htexts, toList_path (hplain first List.mem_cons_self).1 texts,
      List.cons_ne_nil first texts, hplain⟩

/-- **The paths around a path are recorded**, if no key has a dot in it. -/
theorem Values.AreOf.mem_paths_of_isAround (h : values.AreOf tree)
    (hkeys : ∀ key ∈ tree.outline.keys, IsPlainKey key) {path r : String}
    (hpath : path ∈ values.paths) (hr : IsAround r path) : r ∈ values.paths := by
  obtain ⟨t, ht, hpath⟩ := h.mem_paths_iff.mp hpath
  obtain ⟨texts, htexts, hjoin, hne, hplain⟩ :=
    t.exists_texts_of_plain (fun s hs => hkeys _ (key_mem_of_mem_trails ht s hs)) hpath
  obtain ⟨back, hback⟩ := hr
  -- both are the pieces of the path, so those of the reference are the first of the texts
  have hsplit : splitAtChar '.' (join ['.'] (texts.map String.toList)) = texts.map String.toList :=
    splitAtChar_join (List.forall_mem_map.mpr fun text htext => (hplain text htext).2)
      (by simpa using hne)
  rw [← hjoin, ← hback, List.append_assoc] at hsplit
  obtain ⟨front, rest, rfl, hfront, -⟩ := List.map_eq_append_iff.mp
    (hsplit.symm.trans (splitAtChar_append_cons '.' r.toList back))
  obtain ⟨around, more, hsteps, haround, -⟩ := exists_append_of_forall₂ htexts.flip
  cases front with
  | nil => exact absurd hfront.symm (splitAtChar_ne_nil '.' r.toList)
  | cons first front =>
    obtain rfl | ⟨around, last, rfl⟩ := List.eq_nil_or_concat around
    · cases haround
    rw [List.concat_eq_append] at haround hsteps
    rw [List.append_assoc] at hsteps
    refine h.mem_paths_iff.mpr ⟨⟨around, last⟩, mem_trails_of_append ht hsteps,
      Trail.hasPath_iff.mpr ⟨first :: front, haround.flip, ?_⟩⟩
    apply String.toList_injective
    rw [toList_path (hplain first (List.mem_append_left _ List.mem_cons_self)).1, hfront,
      join_splitAtChar]

/-- **A reference has a path** among those it is about exactly if it or one around it is recorded. -/
theorem Values.AreOf.any_pathsAround_iff (h : values.AreOf tree)
    (hkeys : ∀ key ∈ tree.outline.keys, IsPlainKey key) {r : String} :
    (pathsAround r).any values.hasPath = true ↔ ∃ path ∈ values.paths, IsAbout r path := by
  rw [List.any_eq_true]
  simp only [Values.hasPath, List.contains_iff_mem]
  constructor
  · rintro ⟨path, haround, hpath⟩
    exact ⟨path, hpath, (mem_pathsAround_iff.mp haround).imp Eq.symm .inl⟩
  · rintro ⟨path, hpath, rfl | haround | hinside⟩
    · exact ⟨r, mem_pathsAround_iff.mpr (.inl rfl), hpath⟩
    · exact ⟨path, mem_pathsAround_iff.mpr (.inr haround), hpath⟩
    · exact ⟨r, mem_pathsAround_iff.mpr (.inl rfl), h.mem_paths_of_isAround hkeys hpath hinside⟩

end Plain

/-! ## The rules -/

section Rules

variable {v : View} {values : Values}

/-- A reference is undefined if no path around it is defined. -/
theorem undefinedValues_eq (hv : v.values = some values) : undefinedValues v =
    ((ordered v.valueReferences).filter fun r => !(pathsAround r).any values.hasPath).map fun r =>
      ⟨"Value '.Values." ++ r ++ "' is referenced but not defined in values.yaml", valuesFile, 1⟩ := by
  rw [undefinedValues, inValues_eq hv]
  exact flatMap_findIf _ _ _

/-- A path is unused if no reference touches it. -/
theorem unusedValues_eq (hv : v.values = some values) : unusedValues v =
    (values.paths.filter fun path => !v.valueReferences.any (touches · path)).map fun path =>
      aboutPath values path ("Value '" ++ path ++ "' is defined but never used in templates") := by
  rw [unusedValues, inValues_eq hv]
  exact flatMap_findIf _ _ _

end Rules

/-- **The two rules are dual.** Let every key of a tree of values be written without a dot and
not as an empty text. Then one rule reports each reference that is about no path, and the
other each path that no reference is about; both report nothing else, and nothing twice. -/
theorem undefined_unused_dual (tree : Tree) (hkeys : ∀ key ∈ tree.outline.keys, IsPlainKey key) :
    ∃ values : Values, values.AreOf tree ∧
      ∀ (options : RuleOptions) (v : View), v.values = some values →
        (∃ undefined : List String, undefined.Nodup ∧
          (∀ r, r ∈ undefined ↔ r ∈ v.valueReferences ∧ ∀ path ∈ values.paths, ¬IsAbout r path) ∧
          Catalogue.bundled.inspect? "HL2002" options v = some (.ok (undefined.map fun r =>
            { code := "HL2002", severity := .warning
              message := "Value '.Values." ++ r ++ "' is referenced but not defined in values.yaml"
              file := "values.yaml", line := 1 }))) ∧
        ∃ unused : List String, unused.Nodup ∧
          (∀ path, path ∈ unused ↔
            path ∈ values.paths ∧ ∀ r ∈ v.valueReferences, ¬IsAbout r path) ∧
          Catalogue.bundled.inspect? "HL2003" options v = some (.ok (unused.map fun path =>
            { code := "HL2003", severity := .info
              message := "Value '" ++ path ++ "' is defined but never used in templates"
              file := "values.yaml", line := (values.lineOf? path).getD 1 })) := by
  have htexts : ∀ key ∈ tree.outline.keys, key.HasText := by
    intro key hkey
    obtain ⟨text, htext, -⟩ := hkeys key hkey
    exact key.exists_plain_iff.mp ⟨text, htext⟩
  -- keys that are text can all be recorded, so the values are there
  obtain ⟨values, hvalues⟩ := exists_areOf htexts
  refine ⟨values, hvalues, fun options v hv => ⟨⟨(ordered v.valueReferences).filter fun r =>
    !(pathsAround r).any values.hasPath, (nodup_ordered _).filter _, fun r => ?_, ?_⟩,
    values.paths.filter fun path => !v.valueReferences.any (touches · path),
    hvalues.nodup_paths.filter _, fun path => ?_, ?_⟩⟩
  · rw [List.mem_filter, mem_ordered_iff, Bool.not_eq_true', ← Bool.not_eq_true,
      hvalues.any_pathsAround_iff hkeys]
    simp only [not_exists, not_and]
  · refine (congrArg (fun found => some (Except.ok (failuresOf _ found)))
      (undefinedValues_eq hv)).trans ?_
    rw [failuresOf, List.map_map]
    rfl
  · rw [List.mem_filter, Bool.not_eq_true', ← Bool.not_eq_true, List.any_eq_true]
    simp only [touches_iff, not_exists, not_and]
  · refine (congrArg (fun found => some (Except.ok (failuresOf _ found)))
      (unusedValues_eq hv)).trans ?_
    rw [failuresOf, List.map_map]
    rfl

/-- The values `a`, with `b` in it, and `c`. -/
def nestedTree : Tree :=
  .mapping [(.text "a", 1, .mapping [(.text "b", 2, .leaf .null (by simp [IsLeaf]))]),
    (.text "c", 3, .leaf .null (by simp [IsLeaf]))]

theorem undefined_unused_dual_nested : (∀ key ∈ nestedTree.outline.keys, IsPlainKey key) ∧
    ∃ values : Values, values.AreOf nestedTree ∧
      ∀ v : View, v.values = some values → v.valueReferences = ["a.b.x", "d"] →
        Catalogue.bundled.inspect? "HL2002" [] v = some (.ok [
          { code := "HL2002", severity := .warning
            message := "Value '.Values.d' is referenced but not defined in values.yaml"
            file := "values.yaml", line := 1 }]) ∧
        Catalogue.bundled.inspect? "HL2003" [] v = some (.ok [
          { code := "HL2003", severity := .info
            message := "Value 'c' is defined but never used in templates"
            file := "values.yaml", line := 3 }]) := by
  have hkeys : ∀ key ∈ nestedTree.outline.keys, IsPlainKey key := by
    intro key hkey
    have hkey : key ∈ [.text "a", .text "b", .text "c"] := hkey
    simp only [List.mem_cons, List.not_mem_nil, or_false] at hkey
    rcases hkey with rfl | rfl | rfl <;> exact ⟨_, rfl, by decide, by decide⟩
  obtain ⟨values, hvalues, hdual⟩ := undefined_unused_dual nestedTree hkeys
  have hlines : values.lines = [("a", 1), ("a.b", 2), ("c", 3)] := by
    obtain ⟨recorded, hrecorded, hlines⟩ := hvalues.lines_eq
    have hwalk : Values.pathsIn "" nestedTree.outline = .ok [("a", 1), ("a.b", 2), ("c", 3)] := rfl
    rw [hlines, Except.ok.inj (hrecorded.symm.trans hwalk)]
    rfl
  refine ⟨hkeys, values, hvalues, fun v hv hrefs => ?_⟩
  obtain ⟨⟨undefined, hnodup, hundefined, hreported⟩, unused, hnodup', hunused, hreported'⟩ :=
    hdual [] v hv
  rw [hrefs, Values.paths, hlines] at hundefined hunused
  -- both lists are known by their members and have no double, so they are computed from these
  have hd : undefined = ["d"] := by
    refine List.perm_singleton.mp ((List.perm_ext_iff_of_nodup hnodup (by simp)).mpr fun r => ?_)
    have hfilter : ["d"] = ["a.b.x", "d"].filter fun r =>
      ["a", "a.b", "c"].all fun path => !decide (IsAbout r path) := by decide
    rw [hundefined, hfilter, List.mem_filter]
    simp only [List.all_eq_true, Bool.not_eq_true', decide_eq_false_iff_not]
    rfl
  have hc : unused = ["c"] := by
    refine List.perm_singleton.mp ((List.perm_ext_iff_of_nodup hnodup' (by simp)).mpr fun p => ?_)
    have hfilter : ["c"] = ["a", "a.b", "c"].filter fun path =>
      ["a.b.x", "d"].all fun r => !decide (IsAbout r path) := by decide
    rw [hunused, hfilter, List.mem_filter]
    simp only [List.all_eq_true, Bool.not_eq_true', decide_eq_false_iff_not]
    rfl
  have hline : values.lineOf? "c" = some 3 := by
    rw [Values.lineOf?, hlines]
    rfl
  rw [hreported, hd, hreported', hc, List.map_singleton, List.map_singleton, hline]
  exact ⟨rfl, rfl⟩

end ContainerLint.Chart
