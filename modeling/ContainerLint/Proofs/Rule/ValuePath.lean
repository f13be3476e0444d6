/-
The values that rules look at, and the lines they report.

Four rules look at one path of the values after the other: those on secrets, ports, tags and
replicas. Each looks up the path, judges what it finds, and reports at the line recorded for
the path. What it finds is the value of the key on that line if the path leads back to the
key. A key with a dot in it is recorded under a path that does not: the rules then pass over
its value, or judge that of another key.
-/
import ContainerLint.Proofs.Chart.Lookup
import ContainerLint.Proofs.Rule.Run

namespace ContainerLint.Chart

open ContainerLint.Text ContainerLint.Yaml

/-! ## Rules on values -/

/-- A rule that looks at one path after the other: what it says of a path, a value and a line. -/
structure ValueRule where
  code : String
  severity : Severity
  judge : String → Value → Nat → Except RuleError (List Finding)

/-- The failure of a rule on values. -/
def ValueRule.failure (r : ValueRule) (x : Finding) : Failure :=
  { code := r.code, severity := r.severity, message := x.message, file := x.file, line := x.line }

/-- The rules on secrets, ports, tags and replicas. Only the paths of secrets are judged by the
first; the others pick their paths themselves. -/
def valueRules : List ValueRule := [
  ⟨"HL2004", .warning, fun path value line =>
    .ok (if Values.isSensitive path then judgeSecret path value line else [])⟩,
  ⟨"HL2005", .error, judgePort⟩,
  ⟨"HL2007", .warning, fun path value line => .ok (judgeTag path value line)⟩,
  ⟨"HL2008", .warning, judgeReplicas⟩]

section Rules

variable {v : View} {values : Values}

/-- A check that always gives a result, path by path. -/
theorem mapM_found (paths : List String) (found : String → List Finding) :
    (paths.mapM fun path => (.ok (found path) : Except RuleError (List Finding))) =
      .ok (paths.map found) := by
  refine mapM_eq_ok_iff.mpr ?_
  rw [List.forall₂_map_right_iff]
  exact List.forall₂_same.mpr fun _ _ => rfl

/-- To go through the paths of secrets is to go through all and to pass over the others. -/
theorem sensitiveValues_eq (hv : v.values = some values) : sensitiveValues v =
    values.paths.flatMap (atPath (fun path value line =>
      if Values.isSensitive path then judgeSecret path value line else []) values) := by
  rw [sensitiveValues, inValues_eq hv, Values.sensitivePaths]
  induction values.paths with
  | nil => rfl
  | cons path paths ih =>
    have hjudge : atPath (fun path value line =>
        if Values.isSensitive path then judgeSecret path value line else []) values path =
          if Values.isSensitive path then atPath judgeSecret values path else [] := rfl
    rw [List.filter_cons, List.flatMap_cons, hjudge, ← ih]
    split
    · rw [List.flatMap_cons]
    · rw [List.nil_append]

/-- **The rules look up each path** and judge its value at its line. -/
theorem inspect?_valueRules (options : RuleOptions) (hv : v.values = some values) :
    ∀ r ∈ valueRules, Catalogue.bundled.inspect? r.code options v =
      some ((values.paths.mapM fun path =>
        r.judge path (values.get path) ((values.lineOf? path).getD 1)).map fun found =>
          found.flatten.map r.failure) := by
  -- two of the rules may fail, the other two always judge
  have hmap : ∀ (f : List Finding → List Failure) (x : Except RuleError (List (List Finding))),
      (x.map List.flatten).map f = x.map fun found => f found.flatten := by
    intro f x
    cases x <;> rfl
  unfold valueRules
  simp only [List.forall_mem_cons, List.not_mem_nil, false_imp_iff, implies_true, and_true]
  refine ⟨?_, ?_, ?_, ?_⟩
  · rw [mapM_found]
    refine (congrArg (fun found => some (Except.ok (failuresOf _ found)))
      (sensitiveValues_eq hv)).trans ?_
    rw [List.flatMap_def]
    rfl
  · exact (congrArg (fun x => some (Except.map (failuresOf _) x)) (atPaths_eq hv _)).trans
      (congrArg some (hmap _ _))
  · rw [mapM_found]
    refine (congrArg (fun found => some (Except.ok (failuresOf _ found)))
      (inValues_eq hv _)).trans ?_
    rw [List.flatMap_def]
    rfl
  · exact (congrArg (fun x => some (Except.map (failuresOf _) x)) (atPaths_eq hv _)).trans
      (congrArg some (hmap _ _))

end Rules

/-! ## Documents of texts -/

mutual

/-- The value is a text, or a mapping of such values under such keys. -/
def isTextual : Value → Bool
  | .text _ => true
  | .map entries => areTextual entries
  | _ => false

/-- Keys and values are texts, or mappings of them. -/
def areTextual : List (Value × Value) → Bool
  | [] => true
  | (key, value) :: rest => isTextual key && isTextual value && areTextual rest

end

mutual

/-- Values made of texts are the same only if they are equal. -/
theorem eq_of_same (v : Value) : ∀ w : Value, isTextual w = true → v.same w = true → v = w
  | .text s, _, h => Value.same_text_iff.mp h
  | .map others, hw, h => by
    cases v with
    | map entries => exact congrArg Value.map (eq_of_allSameEntries entries others hw h)
    | _ => simp [Value.same] at h

theorem eq_of_allSameEntries (entries : List (Value × Value)) : ∀ others : List (Value × Value),
    areTextual others = true → Value.allSameEntries entries others = true → entries = others
  | [], _, h => by
    cases entries with
    | nil => rfl
    | cons entry entries => simp [Value.allSameEntries] at h
  | (key, value) :: rest, hw, h => by
    cases entries with
    | nil => simp [Value.allSameEntries] at h
    | cons entry entries =>
      obtain ⟨key', value'⟩ := entry
      simp only [areTextual, Bool.and_eq_true] at hw
      simp only [Value.allSameEntries, Bool.and_eq_true] at h
      rw [eq_of_same key' key hw.1.1 h.1.1, eq_of_same value' value hw.1.2 h.1.2,
        eq_of_allSameEntries entries rest hw.2 h.2]

end

/-- What a text is read as can be computed by comparing. -/
theorem exists_ofText_of_same {text : String} {w : Value} (hw : isTextual w = true)
    (h : ((Values.ofText text).toOption.any fun values => values.value.same w) = true) :
    ∃ values, Values.ofText text = .ok values ∧ values.value = w := by
  cases hread : Values.ofText text with
  | error e => simp [hread, Except.toOption] at h
  | ok values =>
    rw [hread] at h
    exact ⟨values, rfl, eq_of_same values.value w hw h⟩

/-- A tree whose value is a map of one entry has one entry. -/
theorem exists_mapping_of_value_eq {tree : Tree} {key v : Value}
    (h : tree.value = .map [(key, v)]) :
    ∃ line inner, tree = .mapping [(key, line, inner)] ∧ inner.value = v := by
  cases tree with
  | leaf w isLeaf => exact absurd h (isLeaf _)
  | mapping entries =>
    rw [Tree.value, Value.map.injEq] at h
    cases entries with
    | nil => cases h
    | cons entry rest =>
      cases rest with
      | nil =>
        obtain ⟨hentry, -⟩ := List.cons.inj h
        obtain ⟨rfl, rfl⟩ := Prod.mk.inj hentry
        exact ⟨entry.2.1, entry.2.2, rfl, rfl⟩
      | cons next rest => simp [Tree.valuesOf] at h

theorem trails_eq_nil_of_value_eq {tree : Tree} {s : String} (h : tree.value = .text s) :
    trails tree = [] := by
  cases tree with
  | leaf w isLeaf => rfl
  | mapping entries =>
    rw [Tree.value] at h
    cases h

/-! ## Lines and values -/

/-- **Recorded paths and the values under them.** Every path that is recorded is recorded for a
key, and the rules on secrets, ports, tags and replicas judge what they find under the path at
the line of that key. If the key is findable, they find its value. If it is not, they find null
or the value of another key. -/
theorem recorded_paths_resolve (text : String) {values : Values}
    (hread : Values.ofText text = .ok values) :
    ∃ tree, IsReadFrom tree text ∧ values.value = tree.value ∧
      (∀ path, values.hasPath path = true ↔ ∃ t, IsRecordedFor tree path t) ∧
      (∀ path t, IsRecordedFor tree path t →
        values.lineOf? path = some t.line ∧
        (t.IsFindable → values.get path = t.value) ∧
        (¬t.IsFindable → values.get path = .null ∨
          ∃ t' ∈ trails tree, t' ≠ t ∧ values.get path = t'.value)) ∧
      ∀ (options : RuleOptions) (v : View), v.values = some values → ∀ r ∈ valueRules,
        ∃ share : String → Except RuleError (List Finding),
          Catalogue.bundled.inspect? r.code options v =
            some ((values.paths.mapM share).map fun found => found.flatten.map r.failure) ∧
          ∀ path t, IsRecordedFor tree path t →
            share path = r.judge path (values.get path) t.line ∧
            (t.IsFindable → share path = r.judge path t.value t.line) := by
  obtain ⟨tree, htree, hvalues⟩ := exists_tree_of_ofText hread
  have hline : ∀ path t, IsRecordedFor tree path t → values.lineOf? path = some t.line := by
    rintro path t ⟨front, back, htrails, hpath, hlast⟩
    exact hvalues.lineOf?_eq htrails hpath hlast
  -- a path is looked up part by part, which leads back to its trail or to another one
  have hget : ∀ path t, IsRecordedFor tree path t → (t.IsFindable ∧ values.get path = t.value) ∨
      (¬t.IsFindable ∧ (values.get path = .null ∨
        ∃ t' ∈ trails tree, t' ≠ t ∧ values.get path = t'.value)) := by
    rintro path t ⟨front, back, htrails, hpath, -⟩
    exact get_cases hvalues.value_eq (htrails ▸ List.mem_append_right _ List.mem_cons_self) hpath
  refine ⟨tree, htree, hvalues.value_eq, fun path => ?_, fun path t ht => ⟨hline path t ht, ?_, ?_⟩,
    fun options v hv r hr => ⟨_, inspect?_valueRules options hv r hr, fun path t ht => ?_⟩⟩
  · rw [Values.hasPath, List.contains_iff_mem, hvalues.mem_paths_iff, exists_isRecordedFor_iff]
  · intro hfindable
    exact ((hget path t ht).resolve_right fun h => h.1 hfindable).2
  · intro hfindable
    exact ((hget path t ht).resolve_left fun h => hfindable h.1).2
  · rw [hline path t ht]
    refine ⟨rfl, fun hfindable => ?_⟩
    rw [((hget path t ht).resolve_right fun h => h.1 hfindable).2]
    rfl

theorem recorded_paths_resolve_nested : ∃ values tree t,
    Values.ofText "a:\n  b: c\n" = .ok values ∧ IsReadFrom tree "a:\n  b: c\n" ∧
      IsRecordedFor tree "a.b" t ∧ t.IsFindable ∧ t.value = .text "c" ∧
      values.lineOf? "a.b" = some t.line ∧ values.get "a.b" = t.value := by
  obtain ⟨values, hread, hvalue⟩ := exists_ofText_of_same
    (w := .map [(.text "a", .map [(.text "b", .text "c")])]) rfl
    (by decide +kernel : ((Values.ofText "a:\n  b: c\n").toOption.any _) = true)
  obtain ⟨tree, htree, hsame, -, hpaths, -⟩ := recorded_paths_resolve _ hread
  obtain ⟨line, inner, rfl, hinner⟩ := exists_mapping_of_value_eq (hsame.symm.trans hvalue)
  obtain ⟨line', last, rfl, hlast⟩ := exists_mapping_of_value_eq hinner
  let outer : Step := ⟨[], .text "a", line, .mapping [(.text "b", line', last)], []⟩
  let t : Trail := ⟨[outer], ⟨[], .text "b", line', last, []⟩⟩
  have hrecorded : IsRecordedFor (.mapping [(outer.key, line, outer.inner)]) "a.b" t := by
    refine ⟨[⟨[], outer⟩], [], ?_, rfl, List.forall_mem_nil _⟩
    rw [trails, trailsFrom, trailsFrom, trails, trailsFrom, trailsFrom,
      trails_eq_nil_of_value_eq hlast]
    rfl
  have hfindable : t.IsFindable :=
    ⟨["a", "b"], .cons (.named rfl (List.forall_mem_nil _))
      (.cons (.named rfl (List.forall_mem_nil _)) .nil), by decide, fun h => absurd h (by decide)⟩
  obtain ⟨hline, hget, -⟩ := hpaths _ _ hrecorded
  exact ⟨values, _, _, hread, htree, hrecorded, hfindable, hlast, hline, hget hfindable⟩

/-- A key with a dot in it is recorded, and its path leads to nothing. -/
theorem dotted_key_lost : ∃ values tree t,
    Values.ofText "a.b: c\n" = .ok values ∧ IsReadFrom tree "a.b: c\n" ∧
      IsRecordedFor tree "a.b" t ∧ t.value = .text "c" ∧ values.get "a.b" = .null := by
  obtain ⟨values, hread, hvalue⟩ := exists_ofText_of_same (w := .map [(.text "a.b", .text "c")]) rfl
    (by decide +kernel : ((Values.ofText "a.b: c\n").toOption.any _) = true)
  obtain ⟨tree, htree, hvalues⟩ := exists_tree_of_ofText hread
  obtain ⟨line, inner, rfl, hinner⟩ :=
    exists_mapping_of_value_eq (hvalues.value_eq.symm.trans hvalue)
  refine ⟨values, _, ⟨[], ⟨[], .text "a.b", line, inner, []⟩⟩, hread, htree,
    ⟨[], [], ?_, rfl, List.forall_mem_nil _⟩, hinner, ?_⟩
  · rw [trails, trailsFrom, trailsFrom, trails_eq_nil_of_value_eq hinner]
    rfl
  · rw [Values.get, hvalue]
    rfl

end ContainerLint.Chart
