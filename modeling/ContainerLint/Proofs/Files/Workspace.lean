/-
Paths that lead on.

A path is followed name by name, and where a link stands in the way, from where the link
points to, up to a number of links. Whatever happens on the way, all that counts for the
names that come after is the place that was reached: from a directory that a path leads
to, more names lead to what the tree of that directory has under them, as long as they
are names of entries and do not end at a link.
-/
import ContainerLint.Files.Workspace
import ContainerLint.Proofs.Files.Tree

namespace ContainerLint

theorem Path.append_append (p : Path) (names more : List String) :
    (p.append names).append more = p.append (names ++ more) := by
  unfold append
  rw [List.append_assoc]

/-- Different names below a directory give different paths. -/
theorem Path.append_inj {p : Path} {names others : List String} :
    p.append names = p.append others ↔ names = others := by
  unfold append
  simp only [mk.injEq, List.append_cancel_left_eq, true_and]

namespace Workspace

variable {w : Workspace} {here p q : Place} {names more rest path : List String}

/-! ## Following more names -/

/-- Where more names lead after an arrival: on from the place, or on behind the link. -/
def Arrival.onward (w : Workspace) (more : List String) : Arrival → Except AccessError Arrival
  | .place p => w.follow p more
  | .link here target rest => .ok (.link here target (rest ++ more))

/-- More names are followed from where the first ones lead, or wait behind a link. -/
theorem follow_append (w : Workspace) (here : Place) (names more : List String) :
    w.follow here (names ++ more) = (w.follow here names).bind (Arrival.onward w more) := by
  induction names generalizing here with
  | nil => rfl
  | cons name names ih =>
    rw [List.cons_append]
    cases here with
    | none =>
      rw [follow, follow]
      split
      next => exact ih none
      next => rfl
    | some place =>
      rw [follow, follow]
      split
      next entries hnode =>
        split
        next => exact ih _
        next =>
          split
          next => rfl
          next => rfl
          next => exact ih _
      next => rfl
      next => rfl

/-- **More names are followed from the place that was reached.** -/
theorem locate_append {links : Nat} (h : w.locate links (here, names) = .ok p)
    (hmore : w.follow p more = .ok (.place q)) :
    w.locate links (here, names ++ more) = .ok q := by
  induction links generalizing here names with
  | zero =>
    unfold locate at h ⊢
    rw [follow_append]
    split at h
    next => cases h
    next place hfollow =>
      cases h
      rw [hfollow, Except.bind, Arrival.onward, hmore]
    next => cases h
  | succ links ih =>
    unfold locate at h ⊢
    rw [follow_append]
    split at h
    next => cases h
    next place hfollow =>
      cases h
      rw [hfollow, Except.bind, Arrival.onward, hmore]
    next place target rest hfollow =>
      -- the link is followed with the names after it, to which the others are added
      rw [hfollow, Except.bind, Arrival.onward]
      dsimp only at h ⊢
      rw [← List.append_assoc]
      exact ih h

/-- What is outside of the tree stays outside. -/
theorem follow_none {arrival : Arrival} (h : w.follow none names = .ok arrival) :
    arrival = .place none := by
  induction names with
  | nil =>
    rw [follow] at h
    exact (Except.ok.inj h).symm
  | cons name names ih =>
    rw [follow] at h
    split at h
    next => exact ih h
    next => cases h

/-- Outside of the tree there is nothing to find. -/
theorem locate_none {links : Nat} (h : w.locate links (none, names) = .ok p) : p = none := by
  unfold locate at h
  split at h
  next => cases h
  next hfollow =>
    cases h
    exact Arrival.place.inj (follow_none hfollow)
  next hfollow => cases follow_none hfollow

/-- A path with more names starts from the same place, if that is inside of the tree. -/
theorem start_append {d : Path} {place : List String} (h : w.start here d = (some place, names)) :
    w.start here (d.append more) = (some place, names ++ more) := by
  have habsolute : (d.append more).isAbsolute = d.isAbsolute := rfl
  unfold start at h ⊢
  rw [habsolute]
  split at h
  next hrelative =>
    cases h
    rw [if_pos hrelative]
    rfl
  next hrelative =>
    rw [if_neg hrelative]
    split at h
    next hinside =>
      cases h
      obtain ⟨hanchor, htop⟩ := Bool.and_eq_true_iff.mp hinside
      rw [List.isPrefixOf_iff_prefix] at htop
      have hinside' : (d.anchor == w.top.anchor &&
          w.top.parts.isPrefixOf (d.parts ++ more)) = true := by
        rw [hanchor, Bool.true_and, List.isPrefixOf_iff_prefix]
        exact htop.trans (List.prefix_append _ _)
      refine (if_pos hinside').trans ?_
      unfold Path.append
      rw [List.drop_append_of_le_length htop.length_le]
    next => cases h

/-! ## Names of entries -/

/-- From a place in the tree, names of entries lead to what is found under them. -/
theorem follow_of_nodeAt? {node n : FileNode} {place : List String}
    (hplace : w.tree.nodeAt? place = some node) (hpath : node.nodeAt? path = some n)
    (hnames : ∀ name ∈ path, isEntryName name = true) (hlink : ∀ target, n ≠ .link target) :
    w.follow (some place) path = .ok (.place (some (place ++ path))) := by
  induction path generalizing node place with
  | nil =>
    rw [List.append_nil]
    rfl
  | cons name path ih =>
    obtain ⟨hname, hnames⟩ := List.forall_mem_cons.mp hnames
    cases node with
    | file | link => cases hpath
    | directory entries =>
      rw [FileNode.nodeAt?] at hpath
      obtain ⟨inner, hlookup, hinner⟩ := Option.bind_eq_some_iff.mp hpath
      have hnext : w.tree.nodeAt? (place ++ [name]) = some inner := by
        rw [FileNode.nodeAt?_append, hplace, Option.bind_some, FileNode.nodeAt?, hlookup]
        rfl
      have hup : ¬ (name == "..") = true := by
        rw [beq_iff_eq]
        exact (isEntryName_iff.mp hname).2.2.1
      rw [follow, hplace]
      dsimp only
      rw [if_neg hup, hlookup]
      have hrest := ih hnext hinner hnames
      rw [List.append_assoc] at hrest
      cases inner with
      | file | directory => exact hrest
      | link target =>
        -- nothing is found behind a link, so it would be what the path ends at
        cases path with
        | nil => exact absurd (Option.some.inj hinner).symm (hlink target)
        | cons => cases hinner

/-- What is found in a proper tree is proper. -/
theorem isProper_of_find {d : Path} {node : FileNode} (hw : w.tree.isProper = true)
    (h : w.find d = .ok node) : node.isProper = true := by
  unfold find at h
  split at h
  next => cases h
  next =>
    cases h
    rfl
  next names hplace =>
    split at h
    next n hn =>
      cases h
      exact (FileNode.of_nodeAt?_of_isProper hw hn).2
    next => cases h

/-- **Below a directory that a path leads to, longer paths lead to what its tree has.** -/
theorem find_append_of_nodeAt? {d : Path} {node n : FileNode} (hw : w.tree.isProper = true)
    (h : w.find d = .ok node) (hpath : node.nodeAt? path = some n)
    (hlink : ∀ target, n ≠ .link target) : w.find (d.append path) = .ok n := by
  have hnames := (FileNode.of_nodeAt?_of_isProper (isProper_of_find hw h) hpath).1
  unfold find at h
  split at h
  next => cases h
  next hplace =>
    -- outside of the tree all is empty, so there is nothing but the directory itself
    cases h
    cases path with
    | cons => cases hpath
    | nil =>
      have hself : d.append [] = d := by
        unfold Path.append
        rw [List.append_nil]
      rw [hself, find, hplace, ← Option.some.inj hpath]
  next place hplace =>
    split at h
    next found hfound =>
      cases h
      unfold Workspace.place at hplace
      obtain ⟨⟨origin, way⟩, hstart⟩ : ∃ s, w.start (some w.here) d = s := ⟨_, rfl⟩
      rw [hstart] at hplace
      cases origin with
      | none => cases locate_none hplace
      | some origin =>
        have hlocate := locate_append hplace (follow_of_nodeAt? hfound hpath hnames hlink)
        unfold find Workspace.place
        rw [start_append hstart, hlocate]
        dsimp only
        rw [FileNode.nodeAt?_append, hfound, Option.bind_some, hpath]
    next => cases h

end Workspace

end ContainerLint
