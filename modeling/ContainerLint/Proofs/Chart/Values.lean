/-
Which values of a chart can be read and checked.

The paths of the values are made of the texts of their keys, so a key that is a number too
great to be written stops the reading. Two checks read numbers: those of ports and those
of replicas. A text that looks like a whole number and is none stops them, and so does, for
ports, a number out of range that is too great to be written into the finding.
-/
import ContainerLint.Proofs.Value.Render
import ContainerLint.Rule.Chart.Values

namespace ContainerLint.Yaml.Outline

mutual

/-- All keys of an outline, outer ones first. -/
def keys : Outline → List Value
  | .leaf => []
  | .mapping entries => keysOf entries

/-- The keys of entries and of what they hold. -/
def keysOf : List (Value × Nat × Outline) → List Value
  | [] => []
  | (key, _, inner) :: rest => key :: inner.keys ++ keysOf rest

end

end ContainerLint.Yaml.Outline

namespace ContainerLint.Chart

open ContainerLint.Text ContainerLint.Yaml

/-! ## Paths -/

namespace Values

/-- A key has a path if it has a text. -/
theorem exists_pathOf_iff (outer : String) (key : Value) :
    (∃ path, pathOf outer key = .ok path) ↔ key.HasText := by
  unfold pathOf
  split
  · exact key.exists_plain_iff
  · exact exists_bind_pure_iff.trans key.exists_plain_iff

mutual

/-- All paths can be made if all keys have texts. -/
theorem exists_pathsIn_iff (outer : String) :
    ∀ o : Outline, (∃ paths, pathsIn outer o = .ok paths) ↔ ∀ key ∈ o.keys, key.HasText
  | .leaf => by simp [pathsIn, Outline.keys]
  | .mapping entries => by
    rw [pathsIn, Outline.keys]
    exact exists_pathsOf_iff outer entries

theorem exists_pathsOf_iff (outer : String) : ∀ entries : List (Value × Nat × Outline),
    (∃ paths, pathsOf outer entries = .ok paths) ↔ ∀ key ∈ Outline.keysOf entries, key.HasText
  | [] => by simp [pathsOf, Outline.keysOf]
  | (key, line, inner) :: rest => by
    rw [pathsOf, Outline.keysOf, List.forall_mem_append, List.forall_mem_cons, and_assoc,
      ← exists_pathOf_iff outer key, ← exists_pathsOf_iff outer rest]
    exact exists_bind_iff_and fun path =>
      (exists_bind_iff_and fun _ => exists_bind_pure_iff).trans
        (and_congr_left' (exists_pathsIn_iff path inner))

end

end Values

/-! ## Numbers -/

/-- The text looks like a whole number: digits after dashes, with blanks around them. -/
def looksWhole (s : String) : Bool :=
  let digits := dropFront (· == '-') (trim s.toList)
  !digits.isEmpty && digits.all isDigit

/-- A text among the values that looks like a whole number is one. -/
def IsCount (v : Value) : Prop :=
  ∀ s, v = .text s → looksWhole s = true → IsNumeral s

/-- A number is read unless a text looks like one and is none. -/
theorem exists_whole?_iff (v : Value) : (∃ n, whole? v = .ok n) ↔ IsCount v := by
  cases v with
  | text s =>
    -- only a text that looks like a number can fail to be one
    have hcount : IsCount (.text s) ↔ (looksWhole s = true → IsNumeral s) :=
      ⟨fun h => h s rfl, fun h _ hs => Value.text.inj hs ▸ h⟩
    have hwhole : whole? (.text s) = if looksWhole s = true then
        ((readNumeral 10 s).map some).mapError .numeral else .ok none := rfl
    rw [hcount, hwhole]
    by_cases hlooks : looksWhole s = true
    · rw [if_pos hlooks, exists_congr fun n => mapError_eq_ok_iff, exists_map_eq_ok_iff,
        exists_readNumeral_iff]
      exact ⟨fun h _ => h, fun h => h hlooks⟩
    · rw [if_neg hlooks]
      exact iff_of_true ⟨none, rfl⟩ fun h => absurd h hlooks
  | _ => exact iff_of_true ⟨_, rfl⟩ fun _ h => nomatch h

/-- A number was there as one, or was read from a text and can be written. -/
theorem of_whole?_eq_some {v : Value} {n : Int} (h : whole? v = .ok (some n)) :
    v = .int n ∨ IsWritable n := by
  unfold whole? at h
  split at h
  next m =>
    obtain rfl : m = n := by simpa using h
    exact .inl rfl
  next s =>
    dsimp only at h
    split at h
    · obtain ⟨m, hm, hmn⟩ := map_eq_ok_iff.mp (mapError_eq_ok_iff.mp h)
      obtain rfl : m = n := by simpa using hmn
      exact .inr (isWritable_of_readNumeral hm)
    · simp at h
  next => simp at h

theorem inValues_eq {v : View} {values : Values} (hv : v.values = some values)
    (check : Values → List Finding) : inValues check v = check values := by
  rw [inValues, hv]

theorem atPaths_eq {v : View} {values : Values} (hv : v.values = some values)
    (judge : String → Value → Nat → Except RuleError (List Finding)) :
    atPaths judge v = (values.paths.mapM (atPath judge values)).map List.flatten := by
  rw [atPaths, hv]

/-- A check that goes from path to path ends if it does at each. -/
theorem exists_atPaths_iff {judge : String → Value → Nat → Except RuleError (List Finding)}
    {v : View} : (∃ found, atPaths judge v = .ok found) ↔ ∀ values, v.values = some values →
      ∀ path ∈ values.paths, ∃ found, atPath judge values path = .ok found := by
  unfold atPaths
  cases v.values with
  | none => exact iff_of_true ⟨[], rfl⟩ fun _ h => nomatch h
  | some values =>
    dsimp only
    rw [exists_map_eq_ok_iff, exists_mapM_eq_ok_iff]
    exact ⟨fun h _ hvalues => Option.some.inj hvalues ▸ h, fun h => h values rfl⟩

/-- A value among the values can be checked as a port. -/
structure IsPort (v : Value) : Prop where
  count : IsCount v
  /-- A number that is no port's can be written. -/
  writable : ∀ n, v = .int n → (1 ≤ n ∧ n ≤ 65535) ∨ IsWritable n

/-- A number is told of if it is not fine, and that takes its text. -/
theorem exists_told_iff {n : Int} {fine : Prop} [Decidable fine] {tell : String → List Finding} :
    (∃ found, (if fine then pure [] else do
      let number ← (writeInt n).mapError RuleError.numeral
      return tell number) = .ok found) ↔ fine ∨ IsWritable n := by
  by_cases hfine : fine
  · rw [if_pos hfine]
    exact iff_of_true ⟨[], rfl⟩ (.inl hfine)
  · rw [if_neg hfine, exists_bind_pure_iff, exists_congr fun s => mapError_eq_ok_iff,
      exists_writeInt_iff]
    exact (or_iff_right hfine).symm

/-- **Ports can be checked** unless one of them looks like a number and is none, or is too
great to be told. -/
theorem exists_badPorts_iff (v : View) : (∃ found, badPorts v = .ok found) ↔
    ∀ values, v.values = some values → ∀ path ∈ values.paths, isPortPath path = true →
      IsPort (values.get path) := by
  unfold badPorts
  rw [exists_atPaths_iff]
  refine forall_congr' fun values => forall_congr' fun _ => forall_congr' fun path =>
    forall_congr' fun _ => ?_
  unfold atPath judgePort
  by_cases hpath : isPortPath path = true
  · rw [hpath, if_neg (by simp)]
    refine Iff.trans ?_ (imp_iff_right rfl).symm
    generalize values.get path = v
    constructor
    · rintro ⟨found, h⟩
      obtain ⟨count, hcount, h⟩ := bind_eq_ok_iff.mp h
      refine ⟨(exists_whole?_iff v).mp ⟨count, hcount⟩, ?_⟩
      rintro n rfl
      obtain rfl : some n = count := Except.ok.inj hcount
      simpa using exists_told_iff.mp ⟨found, h⟩
    · rintro ⟨hcount, hwritable⟩
      obtain ⟨count, hcount⟩ := (exists_whole?_iff v).mpr hcount
      rw [hcount]
      cases count with
      | none => exact ⟨[], rfl⟩
      | some n =>
        refine exists_told_iff.mpr ?_
        -- a number that was read from a text can be told; others need the condition
        rcases of_whole?_eq_some hcount with hint | hn
        · simpa using hwritable n hint
        · exact .inr hn
  · rw [if_pos (by simpa using hpath)]
    exact iff_of_true ⟨[], rfl⟩ fun h => absurd h hpath

/-- **Replicas can be checked** unless one of them looks like a number and is none. -/
theorem exists_zeroReplicas_iff (v : View) : (∃ found, zeroReplicas v = .ok found) ↔
    ∀ values, v.values = some values → ∀ path ∈ values.paths,
      (endsWith (lower path) "replicacount" || endsWith (lower path) "replicas") = true →
      IsCount (values.get path) := by
  unfold zeroReplicas
  rw [exists_atPaths_iff]
  refine forall_congr' fun values => forall_congr' fun _ => forall_congr' fun path =>
    forall_congr' fun _ => ?_
  unfold atPath judgeReplicas
  dsimp only
  by_cases hpath : (endsWith (lower path) "replicacount" || endsWith (lower path) "replicas") = true
  · rw [hpath, if_neg (by simp), exists_bind_pure_iff, exists_whole?_iff]
    exact ⟨fun h _ => h, fun h => h rfl⟩
  · rw [if_pos (by simpa using hpath)]
    exact iff_of_true ⟨[], rfl⟩ fun h => absurd h hpath

end ContainerLint.Chart
