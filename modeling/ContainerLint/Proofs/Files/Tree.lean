/-
Trees of files, by what is found at paths of names.

A tree is a value that can hold more than a file system can: two entries of one name,
or a name that is no name but a path. A *proper* tree has neither.

Of a proper tree it is enough to know what is found at each path. The walk through it
meets each path once and nothing else, and the order of paths is total, so that two
trees with the same at each path have the same contents in the same order. That is how
a tree is changed here: never by how it was built, only by what is found where.
-/
import ContainerLint.Files.Tree
import ContainerLint.Proofs.Result
import ContainerLint.Proofs.Text.Lines
import Mathlib.Data.List.Forall2
import Mathlib.Data.List.Nodup
import Mathlib.Data.String.Basic

namespace ContainerLint

open ContainerLint.Text

/-! ## Names -/

/-- A name that an entry of a directory can have: it is not empty, stands for no other
directory, and has no slash in it. -/
def isEntryName (name : String) : Bool :=
  name != "" && name != "." && name != ".." && !name.toList.contains '/'

theorem isEntryName_iff {name : String} :
    isEntryName name = true ↔ name ≠ "" ∧ name ≠ "." ∧ name ≠ ".." ∧ '/' ∉ name.toList := by
  unfold isEntryName
  simp only [Bool.and_eq_true, bne_iff_ne, Bool.not_eq_true', List.contains_eq_mem,
    decide_eq_false_iff_not, and_assoc]

/-- Names without a slash can be read back from their path. -/
theorem splitAtChar_joinWith {names : List String}
    (hnames : ∀ name ∈ names, isEntryName name = true) (hne : names ≠ []) :
    splitAtChar '/' (joinWith "/" names).toList = names.map String.toList := by
  rw [joinWith, String.toList_ofList]
  refine splitAtChar_join (fun piece hpiece => ?_) (by simpa using hne)
  obtain ⟨name, hname, rfl⟩ := List.mem_map.mp hpiece
  exact (isEntryName_iff.mp (hnames name hname)).2.2.2

/-- **Names joined by slashes can be told apart.** -/
theorem joinWith_slash_inj {names others : List String}
    (hnames : ∀ name ∈ names, isEntryName name = true)
    (hothers : ∀ name ∈ others, isEntryName name = true) (hne : names ≠ []) (hne' : others ≠ [])
    (h : joinWith "/" names = joinWith "/" others) : names = others := by
  have hlists : names.map String.toList = others.map String.toList := by
    rw [← splitAtChar_joinWith hnames hne, h, splitAtChar_joinWith hothers hne']
  exact List.map_injective_iff.mpr (fun a b hab => String.toList_inj.mp hab) hlists

/-! ## The order of paths -/

namespace Path

/-- Paths are compared name by name. -/
theorem notAfter_cons (a b : String) (as bs : List String) :
    notAfter (a :: as) (b :: bs) = true ↔ a < b ∨ a = b ∧ notAfter as bs = true := by
  rw [notAfter]
  by_cases hab : a = b
  · subst hab
    rw [if_pos rfl]
    exact ⟨fun h => .inr ⟨rfl, h⟩, fun h => (h.resolve_left (lt_irrefl a)).2⟩
  · rw [if_neg hab, decide_eq_true_iff]
    exact ⟨.inl, fun h => h.resolve_right fun heq => hab heq.1⟩

/-- The order of paths is transitive. -/
theorem notAfter_trans {as bs cs : List String} (hab : notAfter as bs = true)
    (hbc : notAfter bs cs = true) : notAfter as cs = true := by
  induction as generalizing bs cs with
  | nil => rfl
  | cons a as ih =>
    cases bs with
    | nil => cases hab
    | cons b bs =>
      cases cs with
      | nil => cases hbc
      | cons c cs =>
        rw [notAfter_cons] at hab hbc ⊢
        rcases hab with hab | ⟨rfl, hab⟩
        · rcases hbc with hbc | ⟨rfl, hbc⟩
          · exact .inl (hab.trans hbc)
          · exact .inl hab
        · rcases hbc with hbc | ⟨rfl, hbc⟩
          · exact .inl hbc
          · exact .inr ⟨rfl, ih hab hbc⟩

/-- The order of paths is total. -/
theorem notAfter_total (as bs : List String) : (notAfter as bs || notAfter bs as) = true := by
  rw [Bool.or_eq_true]
  induction as generalizing bs with
  | nil => exact .inl rfl
  | cons a as ih =>
    cases bs with
    | nil => exact .inr rfl
    | cons b bs =>
      rw [notAfter_cons, notAfter_cons]
      rcases lt_trichotomy a b with hlt | rfl | hgt
      · exact .inl (.inl hlt)
      · exact (ih bs).imp (fun h => .inr ⟨rfl, h⟩) fun h => .inr ⟨rfl, h⟩
      · exact .inr (.inl hgt)

/-- The order of paths is antisymmetric, so they can be sorted in one way only. -/
theorem notAfter_antisymm {as bs : List String} (hab : notAfter as bs = true)
    (hba : notAfter bs as = true) : as = bs := by
  induction as generalizing bs with
  | nil =>
    cases bs with
    | nil => rfl
    | cons b bs => cases hba
  | cons a as ih =>
    cases bs with
    | nil => cases hab
    | cons b bs =>
      rw [notAfter_cons] at hab hba
      rcases hab with hab | ⟨rfl, hab⟩
      · rcases hba with hba | ⟨rfl, -⟩
        · exact absurd (hab.trans hba) (lt_irrefl a)
        · exact absurd hab (lt_irrefl _)
      · rcases hba with hba | ⟨-, hba⟩
        · exact absurd hba (lt_irrefl a)
        · rw [ih hab hba]

end Path

namespace FileNode

/-! ## Proper trees -/

mutual

/-- The tree is one that a file system can hold. -/
def isProper : FileNode → Bool
  | .directory entries => areProper entries
  | _ => true

/-- The entries are those of a directory of a file system: their names are names, and are
different, and what they hold is proper. -/
def areProper : List (String × FileNode) → Bool
  | [] => true
  | (name, node) :: rest =>
    isEntryName name && (rest.lookup name).isNone && node.isProper && areProper rest

end

variable {name : String} {node n tree : FileNode} {entries rest : List (String × FileNode)}
  {outer path : List String}

theorem areProper_cons_iff :
    areProper ((name, node) :: rest) = true ↔
      isEntryName name = true ∧ rest.lookup name = none ∧ node.isProper = true ∧
        areProper rest = true := by
  rw [areProper]
  simp only [Bool.and_eq_true, Option.isNone_iff_eq_none, and_assoc]

/-- What a proper directory has is proper, and has a proper name. -/
theorem of_lookup_of_areProper (h : areProper entries = true)
    (hlookup : entries.lookup name = some node) :
    isEntryName name = true ∧ node.isProper = true := by
  induction entries with
  | nil => cases hlookup
  | cons e entries ih =>
    obtain ⟨m, inner⟩ := e
    obtain ⟨hname, -, hinner, hrest⟩ := areProper_cons_iff.mp h
    rw [lookup_cons_eq_ite] at hlookup
    split at hlookup
    next hm => exact ⟨hm ▸ hname, Option.some.inj hlookup ▸ hinner⟩
    next => exact ih hrest hlookup

/-! ## Looking up -/

/-- A path is followed part by part. -/
theorem nodeAt?_append (path more : List String) (t : FileNode) :
    t.nodeAt? (path ++ more) = (t.nodeAt? path).bind fun n => n.nodeAt? more := by
  induction path generalizing t with
  | nil => rfl
  | cons name path ih =>
    cases t with
    | file | link => rfl
    | directory entries =>
      rw [List.cons_append, nodeAt?, nodeAt?]
      cases entries.lookup name with
      | none => rfl
      | some inner => exact ih inner

/-- What is found in a proper tree is proper, and is found under names. -/
theorem of_nodeAt?_of_isProper (h : tree.isProper = true) (hpath : tree.nodeAt? path = some n) :
    (∀ name ∈ path, isEntryName name = true) ∧ n.isProper = true := by
  induction path generalizing tree with
  | nil =>
    rw [nodeAt?, Option.some.injEq] at hpath
    exact ⟨fun _ hname => absurd hname List.not_mem_nil, hpath ▸ h⟩
  | cons name path ih =>
    cases tree with
    | file | link => cases hpath
    | directory entries =>
      rw [nodeAt?] at hpath
      obtain ⟨inner, hlookup, hinner⟩ := Option.bind_eq_some_iff.mp hpath
      rw [isProper] at h
      obtain ⟨hname, hproper⟩ := of_lookup_of_areProper h hlookup
      obtain ⟨hnames, hn⟩ := ih hproper hinner
      exact ⟨List.forall_mem_cons.mpr ⟨hname, hnames⟩, hn⟩

/-! ## Walking -/

mutual

/-- The walk meets what is found below, under its path. -/
theorem mem_walk_iff : ∀ {node : FileNode} {outer path : List String} {n : FileNode},
    node.isProper = true → ((path, n) ∈ walk outer node ↔
      ∃ inner, inner ≠ [] ∧ path = outer ++ inner ∧ node.nodeAt? inner = some n)
  | .file _, _, _, _, _ | .link _, _, _, _, _ => by
    refine iff_of_false List.not_mem_nil ?_
    rintro ⟨inner, hne, -, hinner⟩
    cases inner with
    | nil => exact hne rfl
    | cons name inner => cases hinner
  | .directory entries, outer, path, n, h => by
    rw [isProper] at h
    rw [walk, mem_walkEntries_iff h]
    constructor
    · rintro ⟨name, inner, hpath, hinner⟩
      exact ⟨name :: inner, List.cons_ne_nil _ _, hpath, hinner⟩
    · rintro ⟨inner, hne, hpath, hinner⟩
      obtain ⟨name, inner, rfl⟩ := List.exists_cons_of_ne_nil hne
      exact ⟨name, inner, hpath, hinner⟩

/-- The walk over entries meets what can be reached by the name of one of them. -/
theorem mem_walkEntries_iff : ∀ {entries : List (String × FileNode)} {outer path : List String}
    {n : FileNode}, areProper entries = true → ((path, n) ∈ walkEntries outer entries ↔
      ∃ name inner, path = outer ++ name :: inner ∧
        (entries.lookup name).bind (fun m => m.nodeAt? inner) = some n)
  | [], _, _, _, _ => by
    refine iff_of_false List.not_mem_nil ?_
    rintro ⟨name, inner, -, hinner⟩
    cases hinner
  | (first, node) :: rest, outer, path, n, h => by
    obtain ⟨-, hnone, hnode, hrest⟩ := areProper_cons_iff.mp h
    rw [walkEntries, List.cons_append, List.mem_cons, List.mem_append, mem_walk_iff hnode,
      mem_walkEntries_iff hrest]
    constructor
    · rintro (heq | ⟨inner, -, rfl, hinner⟩ | ⟨name, inner, rfl, hinner⟩)
      · obtain ⟨rfl, rfl⟩ := Prod.mk.inj heq
        exact ⟨first, [], rfl, by rw [List.lookup_cons_self]; rfl⟩
      · exact ⟨first, inner, by rw [List.append_assoc]; rfl, by
          rw [List.lookup_cons_self]; exact hinner⟩
      · -- the name is that of a later entry, so it is not the first one
        have hname : name ≠ first := by
          rintro rfl
          rw [hnone] at hinner
          cases hinner
        exact ⟨name, inner, rfl, by rw [lookup_cons_eq_ite, if_neg hname]; exact hinner⟩
    · rintro ⟨name, inner, rfl, hinner⟩
      rw [lookup_cons_eq_ite] at hinner
      by_cases hname : name = first
      · subst hname
        rw [if_pos rfl] at hinner
        cases inner with
        | nil => exact .inl (by rw [← Option.some.inj hinner])
        | cons next inner =>
          refine .inr (.inl ⟨next :: inner, List.cons_ne_nil _ _, ?_, hinner⟩)
          rw [List.append_assoc]
          rfl
      · rw [if_neg hname] at hinner
        exact .inr (.inr ⟨name, inner, rfl, hinner⟩)

end

mutual

/-- The walk meets each path once. -/
theorem nodup_walk : ∀ {node : FileNode} {outer : List String}, node.isProper = true →
    ((walk outer node).map Prod.fst).Nodup
  | .file _, _, _ | .link _, _, _ => List.nodup_nil
  | .directory entries, outer, h => by
    rw [isProper] at h
    exact nodup_walkEntries h

/-- The walk over entries meets nothing twice. -/
theorem nodup_walkEntries : ∀ {entries : List (String × FileNode)} {outer : List String},
    areProper entries = true → ((walkEntries outer entries).map Prod.fst).Nodup
  | [], _, _ => List.nodup_nil
  | (first, node) :: rest, outer, h => by
    obtain ⟨-, hnone, hnode, hrest⟩ := areProper_cons_iff.mp h
    -- the first entry, what is below it and what is in later ones have different paths
    rw [walkEntries, List.cons_append, List.map_cons, List.map_append]
    have hbelow : ∀ path ∈ (walk (outer ++ [first]) node).map Prod.fst,
        ∃ inner, inner ≠ [] ∧ path = outer ++ first :: inner := by
      intro path hpath
      obtain ⟨⟨_, n⟩, hmem, rfl⟩ := List.mem_map.mp hpath
      obtain ⟨inner, hne, hinner, -⟩ := (mem_walk_iff hnode).mp hmem
      exact ⟨inner, hne, by rw [hinner, List.append_assoc]; rfl⟩
    have hlater : ∀ path ∈ (walkEntries outer rest).map Prod.fst,
        ∃ name inner, name ≠ first ∧ path = outer ++ name :: inner := by
      intro path hpath
      obtain ⟨⟨_, n⟩, hmem, rfl⟩ := List.mem_map.mp hpath
      obtain ⟨name, inner, hinner, hfound⟩ := (mem_walkEntries_iff hrest).mp hmem
      refine ⟨name, inner, ?_, hinner⟩
      rintro rfl
      rw [hnone] at hfound
      cases hfound
    refine List.nodup_cons.mpr ⟨fun hmem => ?_, List.nodup_append.mpr
      ⟨nodup_walk hnode, nodup_walkEntries hrest, ?_⟩⟩
    · rcases List.mem_append.mp hmem with hmem | hmem
      · obtain ⟨inner, hne, heq⟩ := hbelow _ hmem
        exact hne (by simpa using heq)
      · obtain ⟨name, inner, hname, heq⟩ := hlater _ hmem
        have heq : first = name ∧ inner = [] := by simpa using heq
        exact hname heq.1.symm
    · rintro path hpath _ hpath' rfl
      obtain ⟨inner, -, hinner⟩ := hbelow _ hpath
      obtain ⟨name, inner', hname, hinner'⟩ := hlater _ hpath'
      have heq : first = name ∧ inner = inner' := by simpa using hinner.symm.trans hinner'
      exact hname heq.1.symm

end

/-! ## Contents -/

/-- **The contents of a tree are what is found at paths.** -/
theorem mem_contents_iff (h : tree.isProper = true) :
    (path, n) ∈ tree.contents ↔ path ≠ [] ∧ tree.nodeAt? path = some n := by
  rw [contents, List.mem_mergeSort, mem_walk_iff h]
  constructor
  · rintro ⟨inner, hne, rfl, hinner⟩
    exact ⟨hne, hinner⟩
  · rintro ⟨hne, hpath⟩
    exact ⟨path, hne, rfl, hpath⟩

theorem nodup_contents (h : tree.isProper = true) : (tree.contents.map Prod.fst).Nodup :=
  ((List.mergeSort_perm _ _).map Prod.fst).nodup_iff.mpr (nodup_walk h)

/-- The contents are in the order of their paths. -/
theorem pairwise_contents (tree : FileNode) :
    (tree.contents.map Prod.fst).Pairwise fun a b => Path.notAfter a b = true := by
  rw [List.pairwise_map]
  have htrans : ∀ a b c : List String × FileNode, Path.notAfter a.1 b.1 = true →
      Path.notAfter b.1 c.1 = true → Path.notAfter a.1 c.1 = true :=
    fun _ _ _ => Path.notAfter_trans
  exact List.pairwise_mergeSort htrans (fun a b => Path.notAfter_total a.1 b.1) _

/-- The contents are all there is below the root. -/
theorem mem_paths_iff (h : tree.isProper = true) :
    path ∈ tree.contents.map Prod.fst ↔ path ≠ [] ∧ (tree.nodeAt? path).isSome = true := by
  rw [List.mem_map, Option.isSome_iff_exists]
  constructor
  · rintro ⟨⟨_, n⟩, hmem, rfl⟩
    obtain ⟨hne, hn⟩ := (mem_contents_iff h).mp hmem
    exact ⟨hne, n, hn⟩
  · rintro ⟨hne, n, hn⟩
    exact ⟨(path, n), (mem_contents_iff h).mpr ⟨hne, hn⟩, rfl⟩

/-- **Two trees that go together at each path go together in order.** -/
theorem forall₂_contents {t₁ t₂ : FileNode} {R : List String → FileNode → FileNode → Prop}
    (h₁ : t₁.isProper = true) (h₂ : t₂.isProper = true)
    (hsame : ∀ path, Option.Rel (R path) (t₁.nodeAt? path) (t₂.nodeAt? path)) :
    List.Forall₂ (fun a b => a.1 = b.1 ∧ R a.1 a.2 b.2) t₁.contents t₂.contents := by
  -- both lists of paths are sorted and have the same members, so they are equal
  have hpaths : t₁.contents.map Prod.fst = t₂.contents.map Prod.fst := by
    refine List.Perm.eq_of_pairwise (fun _ _ _ _ => Path.notAfter_antisymm)
      (pairwise_contents t₁) (pairwise_contents t₂)
      ((List.perm_ext_iff_of_nodup (nodup_contents h₁) (nodup_contents h₂)).mpr fun path => ?_)
    rw [mem_paths_iff h₁, mem_paths_iff h₂]
    refine and_congr_right fun _ => ?_
    have hpath := hsame path
    generalize t₁.nodeAt? path = a at hpath ⊢
    generalize t₂.nodeAt? path = b at hpath ⊢
    cases hpath with
    | none => exact Iff.rfl
    | some _ => exact iff_of_true rfl rfl
  have hstep : List.Forall₂ (fun a b => a.1 = b.1) t₁.contents t₂.contents := by
    have hmaps : List.Forall₂ (fun a b => a = b) (t₁.contents.map Prod.fst)
        (t₂.contents.map Prod.fst) := by
      rw [List.forall₂_eq_eq_eq]
      exact hpaths
    exact List.forall₂_map_right_iff.mp (List.forall₂_map_left_iff.mp hmaps)
  rw [List.forall₂_iff_zip] at hstep ⊢
  refine ⟨hstep.1, fun {a b} hmem => ?_⟩
  obtain ⟨path, n₁⟩ := a
  obtain ⟨path', n₂⟩ := b
  obtain rfl : path = path' := hstep.2 hmem
  obtain ⟨hmem₁, hmem₂⟩ := List.of_mem_zip hmem
  have hpath := hsame path
  rw [((mem_contents_iff h₁).mp hmem₁).2, ((mem_contents_iff h₂).mp hmem₂).2] at hpath
  cases hpath with
  | some hR => exact ⟨rfl, hR⟩

end FileNode

end ContainerLint
