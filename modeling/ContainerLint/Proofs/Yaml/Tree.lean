/-
Values with the lines of their keys.

A document is read into a value and an outline, two trees that branch alike: where the value
is a mapping the outline has its keys, with a line each, and where it is none the outline
ends. A tree holds both, so that a key, its line and its value can be spoken of together.

The reader builds the two side by side, entry by entry, and takes them apart again where a
mapping merges another. Each of these steps keeps to trees, and so does, by induction on the
depth, what is read (`ensures_outline`).
-/
import ContainerLint.Proofs.Result
import ContainerLint.Yaml.Outline

namespace ContainerLint.Yaml

/-- The value is no mapping. -/
def IsLeaf (v : Value) : Prop :=
  ∀ entries, v ≠ .map entries

/-- A value with the lines of its keys. -/
inductive Tree where
  /-- A value without keys. -/
  | leaf (v : Value) (isLeaf : IsLeaf v)
  /-- A mapping: its keys, the line of each, and what it holds. -/
  | mapping (entries : List (Value × Nat × Tree))

namespace Tree

mutual

/-- The value without the lines. -/
def value : Tree → Value
  | .leaf v _ => v
  | .mapping entries => .map (valuesOf entries)

/-- Entries without the lines. -/
def valuesOf : List (Value × Nat × Tree) → List (Value × Value)
  | [] => []
  | (key, _, inner) :: rest => (key, inner.value) :: valuesOf rest

end

mutual

/-- The lines of the keys without the values. -/
def outline : Tree → Outline
  | .leaf .. => .leaf
  | .mapping entries => .mapping (outlinesOf entries)

/-- Entries without the values. -/
def outlinesOf : List (Value × Nat × Tree) → List (Value × Nat × Outline)
  | [] => []
  | (key, line, inner) :: rest => (key, line, inner.outline) :: outlinesOf rest

end

end Tree

/-- A value and an outline are those of a tree. -/
def IsTree (r : Value × Outline) : Prop :=
  ∃ t : Tree, t.value = r.1 ∧ t.outline = r.2

theorem isTree_leaf {v : Value} (h : IsLeaf v) : IsTree (v, .leaf) :=
  ⟨.leaf v h, rfl, rfl⟩

/-! ## Entries -/

/-- What an entry holds is a tree. -/
def OutlinedEntry.HoldsTree (e : OutlinedEntry) : Prop :=
  IsTree (e.value, e.outline)

/-- Entries that hold trees make a tree. -/
theorem isTree_ofEntries {entries : List OutlinedEntry} (h : ∀ e ∈ entries, e.HoldsTree) :
    IsTree (ofEntries entries) := by
  -- the trees of the entries are chosen one by one, and values and outlines follow
  have hparts : ∃ parts : List (Value × Nat × Tree),
      Tree.valuesOf parts = entries.map (fun e => (e.key, e.value)) ∧
        Tree.outlinesOf parts = entries.map fun e => (e.key, e.line, e.outline) := by
    induction entries with
    | nil => exact ⟨[], rfl, rfl⟩
    | cons e entries ih =>
      obtain ⟨⟨t, hvalue, houtline⟩, hrest⟩ := List.forall_mem_cons.mp h
      obtain ⟨parts, hvalues, houtlines⟩ := ih hrest
      refine ⟨(e.key, e.line, t) :: parts, ?_, ?_⟩
      · rw [Tree.valuesOf, hvalue, hvalues, List.map_cons]
      · rw [Tree.outlinesOf, houtline, houtlines, List.map_cons]
  obtain ⟨parts, hvalues, houtlines⟩ := hparts
  exact ⟨.mapping parts, congrArg Value.map hvalues, congrArg Outline.mapping houtlines⟩

/-- A tree's entries hold trees. -/
theorem holdsTree_of_mem_toEntries {r : Value × Outline} (h : IsTree r) :
    ∀ e ∈ toEntries r, e.HoldsTree := by
  obtain ⟨v, o⟩ := r
  obtain ⟨t, rfl, rfl⟩ := h
  cases t with
  | leaf v isLeaf => simp [toEntries, Tree.outline]
  | mapping entries =>
    rw [Tree.value, Tree.outline, toEntries]
    induction entries with
    | nil => simp [Tree.valuesOf]
    | cons part entries ih =>
      obtain ⟨key, line, inner⟩ := part
      rw [Tree.valuesOf, Tree.outlinesOf, List.zip_cons_cons, List.map_cons, List.forall_mem_cons]
      exact ⟨⟨inner, rfl, rfl⟩, ih⟩

/-- Merging keeps to entries that hold trees. -/
theorem holdsTree_mergeEntries {line : Nat} {entries theirs : List OutlinedEntry}
    (hentries : ∀ e ∈ entries, e.HoldsTree) (htheirs : ∀ e ∈ theirs, e.HoldsTree) :
    ∀ e ∈ mergeEntries line entries theirs, e.HoldsTree := by
  unfold mergeEntries
  induction theirs generalizing entries with
  | nil => exact hentries
  | cons e theirs ih =>
    obtain ⟨he, htheirs⟩ := List.forall_mem_cons.mp htheirs
    rw [List.foldl_cons]
    refine ih ?_ htheirs
    split
    · exact hentries
    · exact List.forall_mem_append.mpr ⟨hentries, List.forall_mem_singleton.mpr he⟩

/-- Merging one mapping after another keeps to entries that hold trees. -/
theorem ensures_mergeAll {line : Nat} {merged : List (Value × Outline)}
    {entries : List OutlinedEntry} (hentries : ∀ e ∈ entries, e.HoldsTree)
    (hmerged : ∀ r ∈ merged, IsTree r) :
    Ensures (fun built => ∀ e ∈ built, e.HoldsTree) (mergeAll line entries merged) := by
  induction merged generalizing entries with
  | nil => exact .ok hentries
  | cons r merged ih =>
    obtain ⟨hr, hrest⟩ := List.forall_mem_cons.mp hmerged
    obtain ⟨v, o⟩ := r
    cases v with
    | map values =>
      rw [mergeAll]
      exact ih (holdsTree_mergeEntries hentries (holdsTree_of_mem_toEntries hr)) hrest
    | _ => exact .error _

/-! ## Mappings -/

section Reader

variable {key value : List OutlinedEntry → OutlineReader} {inner : OutlineReader} {start : Mark}

/-- Values are read by the entries so far, which hold trees. -/
theorem ensures_outlineEntries
    (hvalue : ∀ built, (∀ e ∈ built, e.HoldsTree) → ∀ n, Ensures IsTree (value built n)) (own : List (Node × Node)) {built : List OutlinedEntry} (hbuilt : ∀ e ∈ built, e.HoldsTree) :
    Ensures (fun entries => ∀ e ∈ entries, e.HoldsTree)
      (outlineEntries key value start built own) := by
  induction own generalizing built with
  | nil => exact .ok hbuilt
  | cons entry own ih =>
    obtain ⟨k, v⟩ := entry
    rw [outlineEntries]
    refine (Ensures.trivially _).bind fun _ _ => (Ensures.trivially _).bind fun key' _ => ?_
    refine (hvalue built hbuilt v).bind fun r hr => ?_
    refine (Ensures.trivially _).bind fun _ _ => (Ensures.trivially _).bind fun _ _ => ?_
    exact ih (List.forall_mem_append.mpr ⟨hbuilt, List.forall_mem_singleton.mpr hr⟩)

theorem ensures_outlineOrdered (hinner : ∀ n, Ensures IsTree (inner n)) (items : List Node)
    {built : List OutlinedEntry} (hbuilt : ∀ e ∈ built, e.HoldsTree) :
    Ensures (fun entries => ∀ e ∈ entries, e.HoldsTree)
      (outlineOrdered inner start built items) := by
  induction items generalizing built with
  | nil => exact .ok hbuilt
  | cons item items ih =>
    rw [outlineOrdered]
    refine (Ensures.trivially _).bind fun entry _ => (Ensures.trivially _).bind fun key _ => ?_
    refine (Ensures.trivially _).bind fun _ _ => .guard fun _ => ?_
    refine (hinner _).bind fun r hr => ?_
    exact ih (List.forall_mem_append.mpr ⟨hbuilt, List.forall_mem_singleton.mpr hr⟩)

/-- What is merged is made of trees. -/
theorem ensures_mergeNodes (hinner : ∀ n, Ensures IsTree (inner n)) (entries : List (Node × Node))
    {taken : List (Value × Outline)} {own : List (Node × Node)} (htaken : ∀ r ∈ taken, IsTree r) :
    Ensures (fun result => ∀ r ∈ result.1, IsTree r)
      (mergeNodes inner start taken own entries) := by
  induction entries generalizing taken own with
  | nil => exact .ok htaken
  | cons entry entries ih =>
    obtain ⟨k, v⟩ := entry
    unfold mergeNodes
    split
    · exact ih htaken
    split
    · exact .error _
    split
    next items _ _ =>
      refine (Ensures.trivially _).bind fun _ _ => ?_
      split
      next => exact .error _
      next =>
        refine (Ensures.mapM fun n _ => hinner n).bind fun read hread => ih ?_
        exact List.forall_mem_append.mpr ⟨htaken, hread.2⟩
    next =>
      split
      · refine (hinner _).bind fun r hr => ih ?_
        exact List.forall_mem_append.mpr ⟨htaken, List.forall_mem_singleton.mpr hr⟩
      · exact .error _

/-- A mapping is read into entries that hold trees, by readers that may see those before. -/
theorem ensures_outlineMapping (hkey : ∀ n, Ensures IsTree (key [] n))
    (hvalue : ∀ built, (∀ e ∈ built, e.HoldsTree) → ∀ n, Ensures IsTree (value built n))
    (n : Node) :
    Ensures (fun entries => ∀ e ∈ entries, e.HoldsTree) (outlineMapping key value n) := by
  unfold outlineMapping
  split
  next =>
    refine (ensures_mergeNodes hkey _ (List.forall_mem_nil _)).bind fun r hr => ?_
    refine (ensures_outlineEntries hvalue _ (List.forall_mem_nil _)).bind fun built hbuilt => ?_
    exact ensures_mergeAll hbuilt hr
  next => exact .error _

end Reader

/-! ## Scalars -/

theorem ensures_toValue (m : Manner) (t : Timestamp) : Ensures IsLeaf (t.toValue m) := by
  unfold Timestamp.toValue
  split
  · exact (Ensures.trivially _).bind fun _ _ => .ok (by simp [IsLeaf])
  · exact (Ensures.trivially _).bind fun _ _ => .ok (by simp [IsLeaf])

/-- No mapping is read from a scalar. -/
theorem ensures_of_readScalar {m : Manner} {tag : Tag} {text : String} {start : Mark}
    {result : Except Error Value} (h : readScalar m tag text start = some result) :
    Ensures IsLeaf result := by
  unfold readScalar at h
  split at h
  -- bytes and moments are matched on once more, and all other kinds are mapped
  case h_5 =>
    obtain rfl := Option.some.inj h
    split
    · exact .ok (by simp [IsLeaf])
    · exact .error _
  case h_7 =>
    obtain rfl := Option.some.inj h
    split
    · exact .error _
    · intro v hv
      exact ensures_toValue m _ v (mapError_eq_ok_iff.mp hv)
  case h_8 => cases h
  case h_1 | h_6 =>
    obtain rfl := Option.some.inj h
    exact .ok (by simp [IsLeaf])
  all_goals
    obtain rfl := Option.some.inj h
    exact (Ensures.trivially _).map fun _ _ => by simp [IsLeaf]

/-- A scalar is a leaf. -/
theorem ensures_outlineScalar (m : Manner) (n : Node) : Ensures IsLeaf (outlineScalar m n) := by
  have hread : ∀ tag text start,
      Ensures IsLeaf ((readScalar m tag text start).getD (.ok .null)) := by
    intro tag text start
    cases hresult : readScalar m tag text start with
    | none => exact .ok (by simp [IsLeaf])
    | some result => exact ensures_of_readScalar hresult
  unfold outlineScalar
  split
  next anchored =>
    split
    next => exact .ok (by cases anchored <;> simp [IsLeaf])
    next hresult => exact ensures_of_readScalar hresult
    next => exact .ok (by simp [IsLeaf])
  next =>
    unfold scalarValue
    split
    · exact .error _
    · exact .error _
    · exact .error _
    · split
      · exact .error _
      · exact (Ensures.trivially _).bind fun written _ => hread _ written _

/-! ## Documents -/

theorem ensures_hidden {α : Type} {p : α → Prop} {n : Node} {x : Except Error α}
    (h : Ensures p x) : Ensures p (hidden n x) := by
  cases x with
  | ok a => exact h
  | error e => exact .error _

/-- A mapping that was begun is read as it is now, which is a tree too. -/
theorem ensures_now {begun : Begun} {inner : OutlineReader}
    (hbegun : ∀ e ∈ begun.entries, e.HoldsTree) (hinner : ∀ n, Ensures IsTree (inner n)) (n : Node) :
    Ensures IsTree (begun.now inner n) := by
  unfold Begun.now
  split
  · split
    · exact .ok (isTree_ofEntries hbegun)
    · exact hinner _
  · exact hinner _

/-- **What is read is a tree.** -/
theorem ensures_outline (m : Manner) (fuel : Nat) {begun : Begun}
    (hbegun : ∀ e ∈ begun.entries, e.HoldsTree) (n : Node) :
    Ensures IsTree (outline m fuel begun n) := by
  induction fuel generalizing n with
  | zero => exact .error _
  | succ fuel ih =>
    -- one case for each kind of node; only mappings have paths below them
    have hlist : ∀ items, IsTree (.list items, .leaf) := fun items => isTree_leaf (by simp [IsLeaf])
    have hmapping : ∀ inside, Ensures (fun entries => ∀ e ∈ entries, OutlinedEntry.HoldsTree e)
        (outlineMapping (fun _ => begun.now (outline m fuel begun))
          (fun _ => outline m fuel begun) inside) :=
      fun inside => ensures_outlineMapping (ensures_now hbegun ih) (fun _ _ => ih) inside
    have hhidden : ∀ n inside, Ensures IsTree (do
        return ofEntries (← hidden n (outlineMapping (fun _ => begun.now (outline m fuel begun))
          (fun _ => outline m fuel begun) inside))) :=
      fun n inside => (ensures_hidden (hmapping inside)).bind fun entries h =>
        .ok (isTree_ofEntries h)
    unfold outline
    split
    · refine .ok (isTree_leaf ?_)
      split <;> simp [IsLeaf]
    · exact (Ensures.trivially _).bind fun items _ => .ok (hlist items)
    · exact (hmapping _).bind fun entries h => .ok (isTree_ofEntries h)
    · exact (Ensures.trivially _).bind fun items _ => .ok (isTree_leaf (by simp [IsLeaf]))
    · refine (Ensures.trivially _).bind fun _ _ => (Ensures.trivially _).bind fun items _ => ?_
      exact (ensures_outlineOrdered ih items (List.forall_mem_nil _)).bind fun entries h =>
        .ok (isTree_ofEntries h)
    · exact (Ensures.trivially _).bind fun _ _ => (Ensures.trivially _).bind fun items _ =>
        .ok (hlist _)
    · exact (Ensures.trivially _).bind fun items _ => .ok (hlist items)
    · exact (Ensures.trivially _).bind fun items _ => .ok (hlist items)
    · exact (Ensures.trivially _).bind fun items _ => .ok (hlist items)
    · exact hhidden _ _
    · exact hhidden _ _
    · exact hhidden _ _
    · exact (ensures_outlineScalar m _).bind fun v hv => .ok (isTree_leaf hv)

/-- The mapping at the root is a tree: at each of its keys, the entries so far hold trees. -/
theorem ensures_outlineRoot (m : Manner) (fuel : Nat) (root : Node) :
    Ensures IsTree (outlineRoot m fuel root) := by
  have hvalue : ∀ built, (∀ e ∈ built, OutlinedEntry.HoldsTree e) → ∀ n,
      Ensures IsTree (outline m fuel ⟨(tieOf? root).toList, built⟩ n) :=
    fun built hbuilt n => ensures_outline m fuel hbuilt n
  refine (ensures_outlineMapping ?_ hvalue root).bind fun entries h => .ok (isTree_ofEntries h)
  exact ensures_now (List.forall_mem_nil _) (hvalue [] (List.forall_mem_nil _))

/-- **Whatever is loaded is a tree.** -/
theorem ensures_loadOutlined (text : String) : Ensures IsTree (loadOutlined text) := by
  unfold loadOutlined
  refine (Ensures.trivially _).bind fun root _ => ?_
  split
  · exact .ok (isTree_leaf (by simp [IsLeaf]))
  · refine (Ensures.trivially _).bind fun _ _ => ?_
    split
    · exact ensures_outlineRoot _ _ _
    · refine (Ensures.trivially _).bind fun _ _ => ?_
      exact ensures_outline _ _ (List.forall_mem_nil _) _

end ContainerLint.Yaml
