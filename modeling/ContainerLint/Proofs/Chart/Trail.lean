/-
The keys of the values of a chart, and the paths under which they are recorded.

A trail leads from the outermost mapping of a tree to one of its keys, by the keys around it.
The trails of a tree are its keys in the order in which they are recorded: each key before
those inside its value, and these before the next key (`forall₂_pathsIn`). A key is recorded
under the path of its trail, with its own line.

Two trails can have one path, where a key has a dot in it, is empty, or reads like another.
Then the path is recorded once, at the place of the first and with the line of the last.
-/
import ContainerLint.Proofs.Chart.Values
import ContainerLint.Proofs.Text.Lines
import ContainerLint.Proofs.Text.Order
import ContainerLint.Proofs.Yaml.Tree

namespace ContainerLint.Chart

open ContainerLint.Text ContainerLint.Yaml

/-! ## Trails -/

/-- A key of a mapping, between the entries before it and those behind it. -/
structure Step where
  before : List (Value × Nat × Tree)
  key : Value
  line : Nat
  inner : Tree
  after : List (Value × Nat × Tree)

/-- The keys among entries, behind some others. -/
def stepsFrom (before : List (Value × Nat × Tree)) : List (Value × Nat × Tree) → List Step
  | [] => []
  | (key, line, inner) :: rest =>
    ⟨before, key, line, inner, rest⟩ :: stepsFrom (before ++ [(key, line, inner)]) rest

/-- The keys of the outermost mapping. -/
def stepsOf : Tree → List Step
  | .leaf .. => []
  | .mapping entries => stepsFrom [] entries

/-- A way to a key: the keys around it, outermost first, and the key. -/
structure Trail where
  around : List Step
  last : Step

namespace Trail

/-- The trail that goes through one more key first. -/
def enter (s : Step) (t : Trail) : Trail :=
  ⟨s :: t.around, t.last⟩

/-- All keys of a trail. -/
def steps (t : Trail) : List Step :=
  t.around ++ [t.last]

/-- The line of the key that the trail leads to. -/
def line (t : Trail) : Nat :=
  t.last.line

/-- The value of the key that the trail leads to. -/
def value (t : Trail) : Value :=
  t.last.inner.value

end Trail

mutual

/-- The trails of a tree, in the order in which they are recorded. -/
def trails : Tree → List Trail
  | .leaf .. => []
  | .mapping entries => trailsFrom [] entries

/-- The trails that start at entries, behind some others. -/
def trailsFrom (before : List (Value × Nat × Tree)) : List (Value × Nat × Tree) → List Trail
  | [] => []
  | (key, line, inner) :: rest =>
    ⟨[], ⟨before, key, line, inner, rest⟩⟩ ::
      (trails inner).map (Trail.enter ⟨before, key, line, inner, rest⟩) ++
      trailsFrom (before ++ [(key, line, inner)]) rest

end

/-- The trails of a tree: each step, followed by the trails behind it. -/
theorem trails_eq_flatMap (tree : Tree) : trails tree =
    (stepsOf tree).flatMap fun s => ⟨[], s⟩ :: (trails s.inner).map (Trail.enter s) := by
  -- by induction on the entries, with those before them, which the steps remember
  have hfrom : ∀ entries before, trailsFrom before entries =
      (stepsFrom before entries).flatMap fun s =>
        ⟨[], s⟩ :: (trails s.inner).map (Trail.enter s) := by
    intro entries
    induction entries with
    | nil => exact fun _ => by rw [trailsFrom, stepsFrom, List.flatMap_nil]
    | cons entry rest ih =>
      intro before
      rw [trailsFrom, stepsFrom, List.flatMap_cons, ih]
  cases tree with
  | leaf v isLeaf => rw [trails, stepsOf, List.flatMap_nil]
  | mapping entries => rw [trails, stepsOf, hfrom]

/-- A trail is a step, or a step and a trail behind it. -/
theorem mem_trails_iff {tree : Tree} {t : Trail} : t ∈ trails tree ↔
    ∃ s ∈ stepsOf tree, t = ⟨[], s⟩ ∨ ∃ t' ∈ trails s.inner, t'.enter s = t := by
  rw [trails_eq_flatMap, List.mem_flatMap]
  simp only [List.mem_cons, List.mem_map]

/-- The trails of one step are the steps into the tree. -/
theorem mem_trails_nil_iff {tree : Tree} {s : Step} :
    ⟨[], s⟩ ∈ trails tree ↔ s ∈ stepsOf tree := by
  rw [mem_trails_iff]
  constructor
  · rintro ⟨s', hs', hsame | ⟨t', -, hsame⟩⟩
    · obtain rfl : s = s' := congrArg Trail.last hsame
      exact hs'
    · cases hsame
  · exact fun hs => ⟨s, hs, .inl rfl⟩

/-- A longer trail is a trail inside of what its first step leads to. -/
theorem mem_trails_cons_iff {tree : Tree} {s last : Step} {around : List Step} :
    ⟨s :: around, last⟩ ∈ trails tree ↔
      s ∈ stepsOf tree ∧ ⟨around, last⟩ ∈ trails s.inner := by
  rw [mem_trails_iff]
  constructor
  · rintro ⟨s', hs', hsame | ⟨t', ht', hsame⟩⟩
    · cases hsame
    · obtain ⟨rfl, rfl⟩ := List.cons.inj (congrArg Trail.around hsame)
      obtain rfl : t'.last = last := congrArg Trail.last hsame
      exact ⟨hs', ht'⟩
  · rintro ⟨hs, ht⟩
    exact ⟨s, hs, .inr ⟨⟨around, last⟩, ht, rfl⟩⟩

/-- **The keys around a key have trails of their own.** -/
theorem mem_trails_of_append {tree : Tree} {front back : List Step} {s : Step} {t : Trail}
    (ht : t ∈ trails tree) (hsteps : t.steps = front ++ s :: back) :
    ⟨front, s⟩ ∈ trails tree := by
  obtain ⟨around, last⟩ := t
  rw [Trail.steps] at hsteps
  -- the induction is on the steps before; each leads into a smaller tree
  induction front generalizing tree around with
  | nil =>
    cases around with
    | nil =>
      obtain ⟨rfl, -⟩ := List.cons.inj hsteps
      exact ht
    | cons first around =>
      obtain ⟨rfl, -⟩ := List.cons.inj hsteps
      exact mem_trails_nil_iff.mpr (mem_trails_cons_iff.mp ht).1
  | cons first front ih =>
    cases around with
    | nil => simp at hsteps
    | cons first' around =>
      obtain ⟨rfl, hrest⟩ := List.cons.inj hsteps
      obtain ⟨hfirst, ht⟩ := mem_trails_cons_iff.mp ht
      exact mem_trails_cons_iff.mpr ⟨hfirst, ih _ ht hrest⟩

/-- The keys behind a step, and its own, are keys of the outline. -/
theorem keys_of_mem_stepsOf {tree : Tree} {s : Step} (hs : s ∈ stepsOf tree) :
    ∀ key ∈ s.key :: s.inner.outline.keys, key ∈ tree.outline.keys := by
  have hfrom : ∀ entries before, s ∈ stepsFrom before entries →
      ∀ key ∈ s.key :: s.inner.outline.keys, key ∈ Outline.keysOf (Tree.outlinesOf entries) := by
    intro entries
    induction entries with
    | nil => exact fun _ hs => absurd hs List.not_mem_nil
    | cons entry rest ih =>
      intro before hs key hkey
      rw [Tree.outlinesOf, Outline.keysOf]
      rcases List.mem_cons.mp hs with rfl | hs
      · exact List.mem_append_left _ hkey
      · exact List.mem_append_right _ (ih _ hs key hkey)
  cases tree with
  | leaf v isLeaf => exact absurd hs List.not_mem_nil
  | mapping entries =>
    rw [Tree.outline, Outline.keys]
    exact hfrom entries [] hs

/-- All keys on a trail are keys of the outline, so all have texts if those do. -/
theorem key_mem_of_mem_trails {tree : Tree} {t : Trail} (ht : t ∈ trails tree) :
    ∀ s ∈ t.steps, s.key ∈ tree.outline.keys := by
  obtain ⟨around, last⟩ := t
  rw [Trail.steps]
  induction around generalizing tree with
  | nil =>
    intro s hs
    rw [List.mem_singleton.mp hs]
    exact keys_of_mem_stepsOf (mem_trails_nil_iff.mp ht) _ List.mem_cons_self
  | cons first around ih =>
    obtain ⟨hfirst, ht⟩ := mem_trails_cons_iff.mp ht
    -- the keys of an inner mapping are among those of the outer one
    have hkeys := keys_of_mem_stepsOf hfirst
    intro s hs
    rcases List.mem_cons.mp hs with rfl | hs
    · exact hkeys _ List.mem_cons_self
    · exact hkeys _ (List.mem_cons_of_mem _ (ih ht s hs))

/-! ## Paths -/

namespace Trail

/-- The keys of the trail are written so. -/
def HasTexts (t : Trail) (texts : List String) : Prop :=
  List.Forall₂ (fun s text => s.key.plain = .ok text) t.steps texts

/-- The key that the trail leads to is recorded under the path. -/
def HasPath (t : Trail) (path : String) : Prop :=
  t.steps.foldlM (fun outer s => Values.pathOf outer s.key) "" = .ok path

end Trail

/-- The path of a text inside the value of a path. -/
def extendPath (outer text : String) : String :=
  if outer.isEmpty then text else outer ++ "." ++ text

/-- A path goes on with the text of a key. -/
theorem pathOf_eq_ok_iff {outer path : String} {key : Value} :
    Values.pathOf outer key = .ok path ↔
      ∃ text, key.plain = .ok text ∧ extendPath outer text = path := by
  unfold Values.pathOf extendPath
  split
  · simp
  · exact bind_eq_ok_iff.trans (exists_congr fun text => and_congr_right fun _ =>
      ⟨Except.ok.inj, congrArg Except.ok⟩)

/-- The path of some steps is made of the texts of their keys. -/
theorem foldlM_pathOf_eq_ok_iff {steps : List Step} {outer path : String} :
    steps.foldlM (fun outer s => Values.pathOf outer s.key) outer = .ok path ↔
      ∃ texts, List.Forall₂ (fun s text => s.key.plain = .ok text) steps texts ∧
        texts.foldl extendPath outer = path := by
  induction steps generalizing outer with
  | nil =>
    rw [List.foldlM_nil]
    constructor
    · intro h
      exact ⟨[], .nil, Except.ok.inj h⟩
    · rintro ⟨texts, htexts, rfl⟩
      rw [List.forall₂_nil_left_iff.mp htexts]
      rfl
  | cons s steps ih =>
    rw [List.foldlM_cons, bind_eq_ok_iff]
    constructor
    · rintro ⟨outer', houter, h⟩
      obtain ⟨text, htext, rfl⟩ := pathOf_eq_ok_iff.mp houter
      obtain ⟨texts, htexts, rfl⟩ := ih.mp h
      exact ⟨text :: texts, .cons htext htexts, rfl⟩
    · rintro ⟨texts, htexts, rfl⟩
      obtain ⟨text, rest, htext, hrest, rfl⟩ := List.forall₂_cons_left_iff.mp htexts
      exact ⟨_, pathOf_eq_ok_iff.mpr ⟨text, htext, rfl⟩, ih.mpr ⟨rest, hrest, rfl⟩⟩

/-- **The path of a trail is made of the texts of its keys.** -/
theorem Trail.hasPath_iff {t : Trail} {path : String} :
    t.HasPath path ↔ ∃ texts, t.HasTexts texts ∧ texts.foldl extendPath "" = path :=
  foldlM_pathOf_eq_ok_iff

/-- Behind a path that is not empty, each text comes after a dot. -/
theorem toList_foldl_extendPath {outer : String} (houter : outer ≠ "") (texts : List String) :
    (texts.foldl extendPath outer).toList = join ['.'] ((outer :: texts).map String.toList) := by
  induction texts generalizing outer with
  | nil => rfl
  | cons text texts ih =>
    have hextend : extendPath outer text = outer ++ "." ++ text := if_neg (by simpa using houter)
    have hne : outer ++ "." ++ text ≠ "" := by simp
    rw [List.foldl_cons, hextend, ih hne, List.map_cons, List.map_cons, List.map_cons]
    cases texts <;> simp [join]

/-- The texts of a trail make its path with dots between them, unless the first is empty. -/
theorem toList_path {first : String} (hfirst : first ≠ "") (texts : List String) :
    ((first :: texts).foldl extendPath "").toList =
      join ['.'] ((first :: texts).map String.toList) :=
  toList_foldl_extendPath hfirst texts

/-! ## Recording -/

/-- What is recorded of a key inside the value of a path. -/
def Trail.RecordedAs (outer : String) (t : Trail) (r : String × Nat) : Prop :=
  t.steps.foldlM (fun outer s => Values.pathOf outer s.key) outer = .ok r.1 ∧ t.line = r.2

theorem Trail.RecordedAs.enter {outer path : String} {s : Step} {t : Trail} {r : String × Nat}
    (hs : Values.pathOf outer s.key = .ok path) (ht : t.RecordedAs path r) :
    (t.enter s).RecordedAs outer r :=
  ⟨bind_eq_ok_iff.mpr ⟨path, hs, ht.1⟩, ht.2⟩

mutual

/-- **The keys of a tree are recorded in the order of its trails.** -/
theorem forall₂_pathsIn (outer : String) : ∀ (tree : Tree) {recorded : List (String × Nat)},
    Values.pathsIn outer tree.outline = .ok recorded →
      List.Forall₂ (Trail.RecordedAs outer) (trails tree) recorded
  | .leaf .., recorded, h => by
    rw [Tree.outline, Values.pathsIn] at h
    rw [trails, ← Except.ok.inj h]
    exact .nil
  | .mapping entries, recorded, h => by
    rw [Tree.outline, Values.pathsIn] at h
    rw [trails]
    exact forall₂_pathsOf outer [] entries h

theorem forall₂_pathsOf (outer : String) (before : List (Value × Nat × Tree)) :
    ∀ (entries : List (Value × Nat × Tree)) {recorded : List (String × Nat)},
      Values.pathsOf outer (Tree.outlinesOf entries) = .ok recorded →
        List.Forall₂ (Trail.RecordedAs outer) (trailsFrom before entries) recorded
  | [], recorded, h => by
    rw [Tree.outlinesOf, Values.pathsOf] at h
    rw [trailsFrom, ← Except.ok.inj h]
    exact .nil
  | (key, line, inner) :: rest, recorded, h => by
    rw [Tree.outlinesOf, Values.pathsOf] at h
    obtain ⟨path, hpath, h⟩ := bind_eq_ok_iff.mp h
    obtain ⟨below, hbelow, h⟩ := bind_eq_ok_iff.mp h
    obtain ⟨more, hmore, h⟩ := bind_eq_ok_iff.mp h
    rw [trailsFrom, ← Except.ok.inj h]
    -- a key comes first, then what it holds, then the entries behind it
    have hkey : Trail.RecordedAs outer ⟨[], ⟨before, key, line, inner, rest⟩⟩ (path, line) :=
      ⟨bind_eq_ok_iff.mpr ⟨path, hpath, rfl⟩, rfl⟩
    refine List.rel_append (.cons hkey ?_) (forall₂_pathsOf outer _ rest hmore)
    rw [List.forall₂_map_left_iff]
    exact (forall₂_pathsIn path inner hbelow).imp fun t r ht => ht.enter hpath

end

/-! ## Lines -/

/-- The lines of what is recorded, each path once. -/
def linesOf (recorded : List (String × Nat)) : List (String × Nat) :=
  recorded.foldl (fun lines (p, n) => Values.putLine p n lines) []

/-- A path keeps its place, and a new one comes last. -/
theorem map_fst_putLine (path : String) (line : Nat) (lines : List (String × Nat)) :
    (Values.putLine path line lines).map (·.1) = addLast (lines.map (·.1)) path := by
  induction lines with
  | nil => rfl
  | cons entry lines ih =>
    obtain ⟨p, n⟩ := entry
    rw [Values.putLine]
    by_cases hp : p = path
    · simp [hp, addLast]
    · rw [if_neg (by simpa using hp), List.map_cons, ih]
      simp only [addLast, List.map_cons, List.contains_cons]
      rw [show (path == p) = false by simpa using Ne.symm hp, Bool.false_or]
      split <;> rfl

/-- The line that was put last counts, and other paths keep theirs. -/
theorem lookup_putLine (path q : String) (line : Nat) (lines : List (String × Nat)) :
    (Values.putLine path line lines).lookup q =
      if q = path then some line else lines.lookup q := by
  induction lines with
  | nil => exact lookup_cons_eq_ite path q line []
  | cons entry lines ih =>
    obtain ⟨p, n⟩ := entry
    rw [Values.putLine]
    by_cases hp : p = path
    · subst hp
      rw [if_pos (beq_self_eq_true p), lookup_cons_eq_ite, lookup_cons_eq_ite]
      split <;> rfl
    · rw [if_neg (by simpa using hp), lookup_cons_eq_ite, lookup_cons_eq_ite, ih]
      by_cases hq : q = p
      · rw [if_pos hq, if_pos hq, if_neg (hq ▸ hp)]
      · rw [if_neg hq, if_neg hq]

theorem map_fst_linesOf (recorded : List (String × Nat)) :
    (linesOf recorded).map (·.1) = distinct (recorded.map (·.1)) := by
  rw [distinct_eq_foldl, linesOf]
  induction recorded using List.reverseRecOn with
  | nil => rfl
  | append_singleton recorded r ih =>
    rw [List.foldl_append, List.map_append, List.foldl_append, ← ih]
    exact map_fst_putLine _ _ _

/-- The last line that is recorded under a path stays. -/
theorem lookup_linesOf {front back : List (String × Nat)} {path : String} {line : Nat}
    (hback : path ∉ back.map (·.1)) :
    (linesOf (front ++ (path, line) :: back)).lookup path = some line := by
  induction back using List.reverseRecOn with
  | nil =>
    rw [linesOf, List.foldl_append]
    exact (lookup_putLine _ _ _ _).trans (if_pos rfl)
  | append_singleton back r ih =>
    rw [List.map_append, List.mem_append, not_or] at hback
    rw [← List.cons_append, ← List.append_assoc, linesOf, List.foldl_append]
    refine (lookup_putLine _ _ _ _).trans ?_
    rw [if_neg fun hr => hback.2 (List.mem_singleton.mpr hr)]
    exact ih hback.1

/-! ## Values -/

/-- The values are those of a tree, with the lines that are recorded for it. -/
structure Values.AreOf (values : Values) (tree : Tree) : Prop where
  value_eq : values.value = tree.value
  lines_eq : ∃ recorded, Values.pathsIn "" tree.outline = .ok recorded ∧
    values.lines = linesOf recorded

namespace Values.AreOf

variable {values : Values} {tree : Tree}

/-- What is recorded goes along with the trails. -/
theorem exists_recorded (h : values.AreOf tree) : ∃ recorded,
    values.lines = linesOf recorded ∧ List.Forall₂ (Trail.RecordedAs "") (trails tree) recorded := by
  obtain ⟨recorded, hrecorded, hlines⟩ := h.lines_eq
  exact ⟨recorded, hlines, forall₂_pathsIn "" tree hrecorded⟩

/-- The recorded paths are those of the trails. -/
theorem mem_paths_iff (h : values.AreOf tree) {path : String} :
    path ∈ values.paths ↔ ∃ t ∈ trails tree, t.HasPath path := by
  obtain ⟨recorded, hlines, htrails⟩ := h.exists_recorded
  rw [Values.paths, hlines, map_fst_linesOf, mem_distinct_iff, List.mem_map]
  constructor
  · rintro ⟨r, hr, rfl⟩
    obtain ⟨t, ht, hpath, -⟩ := exists_of_mem_right htrails hr
    exact ⟨t, ht, hpath⟩
  · rintro ⟨t, ht, hpath⟩
    obtain ⟨r, hr, hrecorded, -⟩ := exists_of_mem_left htrails ht
    exact ⟨r, hr, Except.ok.inj (hrecorded.symm.trans hpath)⟩

theorem nodup_paths (h : values.AreOf tree) : values.paths.Nodup := by
  obtain ⟨recorded, hlines, -⟩ := h.exists_recorded
  rw [Values.paths, hlines, map_fst_linesOf]
  exact nodup_distinct _

/-- **The line of a path** is that of the last key that is recorded under it. -/
theorem lineOf?_eq (h : values.AreOf tree) {front back : List Trail} {t : Trail} {path : String}
    (htrails : trails tree = front ++ t :: back) (hpath : t.HasPath path)
    (hlast : ∀ t' ∈ back, ¬t'.HasPath path) : values.lineOf? path = some t.line := by
  obtain ⟨recorded, hlines, hrecorded⟩ := h.exists_recorded
  rw [htrails] at hrecorded
  obtain ⟨front', rest, rfl, -, hrest⟩ := exists_append_of_forall₂ hrecorded
  obtain ⟨⟨path', line⟩, back', ⟨hpath', rfl⟩, hback, rfl⟩ := List.forall₂_cons_left_iff.mp hrest
  obtain rfl : path' = path := Except.ok.inj (hpath'.symm.trans hpath)
  rw [Values.lineOf?, hlines]
  refine lookup_linesOf fun hmem => ?_
  obtain ⟨r, hr, hsame⟩ := List.mem_map.mp hmem
  obtain ⟨t', ht', hpath', -⟩ := exists_of_mem_right hback hr
  exact hlast t' ht' (hsame ▸ hpath')

end Values.AreOf

/-- A tree whose keys can be written has values. -/
theorem exists_areOf {tree : Tree} (h : ∀ key ∈ tree.outline.keys, key.HasText) :
    ∃ values : Values, values.AreOf tree := by
  obtain ⟨recorded, hrecorded⟩ := (Values.exists_pathsIn_iff "" tree.outline).mpr h
  exact ⟨⟨tree.value, linesOf recorded⟩, rfl, recorded, hrecorded, rfl⟩

end ContainerLint.Chart
