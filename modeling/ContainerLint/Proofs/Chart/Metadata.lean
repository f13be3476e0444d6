/-
Which documents describe a chart.

A document that is a mapping can still fail to be a description: a field whose items are
wanted may hold a value without items, and a field whose text is wanted may hold a number
too great to be written. What is said here is exact: there is nothing else that a mapping
can be refused for, and it is not refused for the form of its file.
-/
import ContainerLint.Chart.Metadata
import ContainerLint.Proofs.Value.Render

namespace ContainerLint.Chart.Metadata

open ContainerLint.Text

/-! ## Fields -/

section Fields

variable {v data : Value} {key : String}

/-- The value has items that can be gone through. -/
def holdsItems (v : Value) : Bool :=
  match v.opened with
  | .list _ | .tuple _ | .set _ | .orderedSet _ | .map _ | .ordered _ | .frozen _ | .text _
  | .bytes _ => true
  | _ => false

/-- Only values with items can be gone through. -/
theorem exists_itemsOf_iff : (∃ items, itemsOf v = .ok items) ↔ holdsItems v = true := by
  unfold itemsOf holdsItems
  cases v.opened <;> simp

/-- A field may also be empty, whatever it holds. -/
theorem exists_fieldItems_iff :
    (∃ items, fieldItems v = .ok items) ↔ (v.isTrue = true → holdsItems v = true) := by
  unfold fieldItems
  by_cases hv : v.isTrue = true
  · rw [if_pos hv, exists_itemsOf_iff]
    exact ⟨fun h _ => h, fun h => h hv⟩
  · rw [if_neg hv]
    exact iff_of_true ⟨[], rfl⟩ fun h => absurd h hv

/-- A value is read as a text if it has one. -/
theorem exists_textOf_iff : (∃ s, textOf v = .ok s) ↔ v.HasText := by
  rw [← Value.exists_plain_iff]
  exact exists_congr fun s => mapError_eq_ok_iff

theorem exists_textAt?_iff : (∃ s, textAt? data key = .ok s) ↔ (data.getD key).HasText := by
  rw [← Value.exists_plain?_iff]
  exact exists_congr fun s => mapError_eq_ok_iff

/-- The default needs no text, and what it stands for has one. -/
theorem exists_required_iff {default : String} :
    (∃ s, required data key default = .ok s) ↔ (data.getD key).HasText := by
  unfold required
  dsimp only
  by_cases hv : (data.getD key).isTrue = true
  · rw [if_pos hv, exists_textOf_iff]
  · rw [if_neg hv]
    exact iff_of_true ⟨default, rfl⟩ (Value.hasText_of_not_isTrue hv)

theorem hasText_null : Value.null.HasText :=
  Value.hasText_of_not_isTrue Bool.false_ne_true

theorem exists_nameOf_iff : (∃ s, nameOf v = .ok s) ↔ (v.getD "name").HasText := by
  unfold nameOf Value.getD
  cases v.get? "name" with
  | none => exact iff_of_true ⟨"", rfl⟩ hasText_null
  | some name => exact exists_textOf_iff

/-- A list is read as texts if its items have one, and other values always are. -/
theorem exists_textsAt_iff : (∃ ss, textsAt data key = .ok ss) ↔
    ∀ items, (data.getD key).items? = some items → ∀ item ∈ items, item.HasText := by
  unfold textsAt
  cases (data.getD key).items? with
  | none => exact iff_of_true ⟨[], rfl⟩ fun _ h => nomatch h
  | some items =>
    dsimp only
    rw [exists_mapM_eq_ok_iff]
    constructor
    · rintro h _ ⟨⟩ item hitem
      -- nulls are left out of the texts, but they have one
      by_cases hnull : item.isNull = true
      · cases item <;> first | exact hasText_null | cases hnull
      · exact exists_textOf_iff.mp (h item (List.mem_filter.mpr ⟨hitem, by simpa using hnull⟩))
    · intro h item hitem
      exact exists_textOf_iff.mpr (h items rfl item (List.mem_filter.mp hitem).1)

/-- A mapping is read as texts if its keys and values have one. -/
theorem exists_textEntries_iff : (∃ es, textEntries v = .ok es) ↔
    ∀ entries, v.entries? = some entries → ∀ e ∈ entries, e.1.HasText ∧ e.2.HasText := by
  -- what has been built does not matter for whether the rest can be
  have hfold : ∀ (entries : List (Value × Value)) (built : List (String × String)),
      (∃ es, entries.foldlM
        (fun built e => return putText (← textOf e.1) (← textOf e.2) built) built = .ok es) ↔
      ∀ e ∈ entries, e.1.HasText ∧ e.2.HasText := by
    intro entries
    induction entries with
    | nil => exact fun built => iff_of_true ⟨built, rfl⟩ fun _ h => nomatch h
    | cons e entries ih =>
      intro built
      rw [List.foldlM_cons, List.forall_mem_cons, exists_bind_iff_and fun built => ih built,
        exists_bind_iff_and fun _ => exists_bind_pure_iff, exists_textOf_iff, exists_textOf_iff]
  unfold textEntries
  cases v.entries? with
  | none => exact iff_of_true ⟨[], rfl⟩ fun _ h => nomatch h
  | some entries =>
    refine (hfold entries []).trans ⟨?_, fun h => h entries rfl⟩
    rintro h _ ⟨⟩
    exact h

end Fields

/-! ## Entries -/

/-- The mapping can be read as a dependency. -/
structure IsDependency (v : Value) : Prop where
  texts : ∀ key ∈ ["name", "version", "repository", "condition", "alias"], (v.getD key).HasText
  tags : ∀ items, (v.getD "tags").items? = some items → ∀ item ∈ items, item.HasText
  importValues : (v.getD "import-values").isTrue = true → holdsItems (v.getD "import-values") = true

/-- What the list of dependencies may hold: dependencies, and other values that can be
written out when they are left out. -/
def IsDependencyEntry (v : Value) : Prop :=
  if v.isMap = true then IsDependency v else v.HasText

/-- Both what is read and what is left out needs its texts. -/
theorem exists_dependency?_iff (v : Value) :
    (∃ d, dependency? v = .ok d) ↔ IsDependencyEntry v := by
  unfold dependency? IsDependencyEntry
  by_cases hv : v.isMap = true
  · rw [if_pos hv, if_pos hv, exists_bind_iff_and fun _ => exists_bind_iff_and fun _ =>
      exists_bind_iff_and fun _ => exists_bind_iff_and fun _ => exists_bind_iff_and fun _ =>
      exists_bind_iff_and fun _ => exists_bind_pure_iff]
    rw [exists_nameOf_iff, exists_textAt?_iff, exists_textAt?_iff, exists_textAt?_iff,
      exists_textsAt_iff, exists_fieldItems_iff, exists_textAt?_iff]
    constructor
    · rintro ⟨hname, hversion, hrepository, hcondition, htags, himport, halias⟩
      exact ⟨by simp [*], htags, himport⟩
    · rintro ⟨htexts, htags, himport⟩
      simp only [List.forall_mem_cons, List.not_mem_nil, false_imp_iff, implies_true] at htexts
      obtain ⟨hname, hversion, hrepository, hcondition, halias, -⟩ := htexts
      exact ⟨hname, hversion, hrepository, hcondition, htags, himport, halias⟩
  · rw [if_neg hv, if_neg hv, exists_bind_pure_iff, exists_congr fun s => mapError_eq_ok_iff,
      Value.exists_shown_iff]

/-- What the list of maintainers may hold: maintainers, and other values, which are left
out unseen. -/
def IsMaintainerEntry (v : Value) : Prop :=
  v.isMap = true → ∀ key ∈ ["name", "email", "url"], (v.getD key).HasText

/-- A maintainer needs texts, and what is left out does not. -/
theorem exists_maintainer?_iff (v : Value) :
    (∃ m, maintainer? v = .ok m) ↔ IsMaintainerEntry v := by
  unfold maintainer? IsMaintainerEntry
  by_cases hv : v.isMap = true
  · rw [if_pos hv, exists_bind_iff_and fun _ => exists_bind_iff_and fun _ => exists_bind_pure_iff,
      exists_nameOf_iff, exists_textAt?_iff, exists_textAt?_iff]
    simp [hv]
  · rw [if_neg hv]
    exact iff_of_true ⟨none, rfl⟩ fun h => absurd h hv

/-! ## The whole -/

/-- The items of a field can be gone through, and what is asked of them holds of each. -/
structure IsListOf (p : Value → Prop) (v : Value) : Prop where
  holds : v.isTrue = true → holdsItems v = true
  items : ∀ items, fieldItems v = .ok items → ∀ item ∈ items, p item

/-- Items are gone through as far as each can be read. -/
theorem exists_mapM_fieldItems_iff {β : Type} {read : Value → Except LoadError β}
    {p : Value → Prop} {v : Value}
    (hread : ∀ item, (∃ b, read item = .ok b) ↔ p item) :
    (∃ bs, (fieldItems v >>= fun items => items.mapM read) = .ok bs) ↔ IsListOf p v := by
  constructor
  · rintro ⟨bs, h⟩
    obtain ⟨items, hitems, hbs⟩ := bind_eq_ok_iff.mp h
    refine ⟨exists_fieldItems_iff.mp ⟨items, hitems⟩, fun items' hitems' item hitem => ?_⟩
    obtain rfl : items = items' := Except.ok.inj (hitems.symm.trans hitems')
    exact (hread item).mp (exists_mapM_eq_ok_iff.mp ⟨bs, hbs⟩ item hitem)
  · rintro ⟨hholds, hitems⟩
    obtain ⟨items, hfield⟩ := exists_fieldItems_iff.mpr hholds
    obtain ⟨bs, hbs⟩ := exists_mapM_eq_ok_iff.mpr fun item hitem =>
      (hread item).mpr (hitems items hfield item hitem)
    exact ⟨bs, bind_eq_ok_iff.mpr ⟨items, hfield, hbs⟩⟩

/-- The mapping can be read as the description of a chart. -/
structure IsDescription (data : Value) : Prop where
  dependencies : IsListOf IsDependencyEntry (data.getD "dependencies")
  maintainers : IsListOf IsMaintainerEntry (data.getD "maintainers")
  texts : ∀ key ∈ ["apiVersion", "name", "version", "kubeVersion", "description", "type", "home",
    "icon", "appVersion"], (data.getD key).HasText
  lists : ∀ key ∈ ["keywords", "sources"], ∀ items, (data.getD key).items? = some items →
    ∀ item ∈ items, item.HasText
  annotations : ∀ entries, (data.getD "annotations").entries? = some entries →
    ∀ e ∈ entries, e.1.HasText ∧ e.2.HasText

/-- **A mapping describes a chart exactly if its fields can be read.** -/
theorem exists_ofValue_iff (data : Value) :
    (∃ m, ofValue data = .ok m) ↔ IsDescription data := by
  unfold ofValue
  -- no field is read by what another holds, so each has its own condition
  rw [← bind_assoc, exists_bind_iff_and fun _ => by
    rw [← bind_assoc, exists_bind_iff_and fun _ => exists_bind_iff_and fun _ =>
      exists_bind_iff_and fun _ => exists_bind_iff_and fun _ => exists_bind_iff_and fun _ =>
      exists_bind_iff_and fun _ => exists_bind_iff_and fun _ => exists_bind_iff_and fun _ =>
      exists_bind_iff_and fun _ => exists_bind_iff_and fun _ => exists_bind_iff_and fun _ =>
      exists_bind_iff_and fun _ => exists_bind_pure_iff]]
  rw [exists_mapM_fieldItems_iff exists_dependency?_iff,
    exists_mapM_fieldItems_iff exists_maintainer?_iff]
  simp only [exists_required_iff, exists_textAt?_iff, exists_textsAt_iff, exists_textEntries_iff]
  constructor
  · rintro ⟨hdependencies, hmaintainers, hapi, hname, hversion, hkube, hdescription, hkind,
      hkeywords, hhome, hsources, hicon, happ, hannotations⟩
    exact ⟨hdependencies, hmaintainers, by simp [*], by simpa using ⟨hkeywords, hsources⟩,
      hannotations⟩
  · rintro ⟨hdependencies, hmaintainers, htexts, hlists, hannotations⟩
    simp only [List.forall_mem_cons, List.not_mem_nil, false_imp_iff, implies_true] at htexts hlists
    obtain ⟨hapi, hname, hversion, hkube, hdescription, hkind, hhome, hicon, happ, -⟩ := htexts
    exact ⟨hdependencies, hmaintainers, hapi, hname, hversion, hkube, hdescription, hkind, hlists.1,
      hhome, hlists.2.1, hicon, happ, hannotations⟩

/-! ## The kinds of errors -/

/-- An error, if there is one, is not about the form of the file. -/
def KeepsForm {α : Type} (x : Except LoadError α) : Prop :=
  ∀ problem line, x ≠ .error (.malformed problem line)

namespace KeepsForm

variable {α β : Type}

theorem ok (a : α) : KeepsForm (.ok a) := fun _ _ h => nomatch h

/-- Steps that keep the form keep it one after the other. -/
theorem bind {x : Except LoadError α} {f : α → Except LoadError β} (hx : KeepsForm x)
    (hf : ∀ a, KeepsForm (f a)) : KeepsForm (x >>= f) := by
  cases x with
  | error e => exact fun problem line h => hx problem line (congrArg _ (Except.error.inj h))
  | ok a => exact hf a

theorem mapM {f : α → Except LoadError β} (hf : ∀ a, KeepsForm (f a)) (xs : List α) :
    KeepsForm (xs.mapM f) := by
  induction xs with
  | nil => exact ok []
  | cons x xs ih =>
    rw [List.mapM_cons]
    exact (hf x).bind fun y => ih.bind fun ys => ok (y :: ys)

/-- A number without a text is no error of form. -/
theorem mapError_numeral (x : Except NumeralError α) : KeepsForm (x.mapError .numeral) := by
  cases x with
  | error e => exact fun _ _ h => nomatch h
  | ok a => exact ok a

theorem fieldItems (v : Value) : KeepsForm (fieldItems v) := by
  unfold Metadata.fieldItems itemsOf
  split
  · split <;> exact fun _ _ h => nomatch h
  · exact ok []

theorem textAt? (data : Value) (key : String) : KeepsForm (textAt? data key) :=
  mapError_numeral _

theorem required (data : Value) (key default : String) : KeepsForm (required data key default) := by
  unfold Metadata.required
  dsimp only
  split
  · exact mapError_numeral _
  · exact ok default

theorem nameOf (v : Value) : KeepsForm (nameOf v) := by
  unfold Metadata.nameOf
  split
  · exact mapError_numeral _
  · exact ok ""

theorem textsAt (data : Value) (key : String) : KeepsForm (textsAt data key) := by
  unfold Metadata.textsAt
  split
  · exact mapM (fun v => mapError_numeral (Value.plain v)) _
  · exact ok []

theorem textEntries (v : Value) : KeepsForm (textEntries v) := by
  have hfold : ∀ (entries : List (Value × Value)) (built : List (String × String)),
      KeepsForm (entries.foldlM
        (fun built e => return putText (← textOf e.1) (← textOf e.2) built) built) := by
    intro entries
    induction entries with
    | nil => exact fun built => ok built
    | cons e entries ih =>
      intro built
      rw [List.foldlM_cons]
      refine bind ?_ ih
      exact (mapError_numeral _).bind fun k => (mapError_numeral _).bind fun t => ok _
  unfold Metadata.textEntries
  split
  · exact hfold _ []
  · exact ok []

theorem dependency? (v : Value) : KeepsForm (dependency? v) := by
  unfold Metadata.dependency?
  split
  · exact (nameOf v).bind fun _ => (textAt? v _).bind fun _ => (textAt? v _).bind fun _ =>
      (textAt? v _).bind fun _ => (textsAt v _).bind fun _ => (fieldItems _).bind fun _ =>
      (textAt? v _).bind fun _ => ok _
  · exact (mapError_numeral _).bind fun _ => ok none

theorem maintainer? (v : Value) : KeepsForm (maintainer? v) := by
  unfold Metadata.maintainer?
  split
  · exact (nameOf v).bind fun _ => (textAt? v _).bind fun _ => (textAt? v _).bind fun _ => ok _
  · exact ok none

end KeepsForm

/-- **A mapping is never refused for its form.** -/
theorem keepsForm_ofValue (data : Value) : KeepsForm (ofValue data) :=
  (KeepsForm.fieldItems _).bind fun _ => (KeepsForm.mapM .dependency? _).bind fun _ =>
    (KeepsForm.fieldItems _).bind fun _ => (KeepsForm.mapM .maintainer? _).bind fun _ =>
    (KeepsForm.required data _ _).bind fun _ => (KeepsForm.required data _ _).bind fun _ =>
    (KeepsForm.required data _ _).bind fun _ => (KeepsForm.textAt? data _).bind fun _ =>
    (KeepsForm.textAt? data _).bind fun _ => (KeepsForm.required data _ _).bind fun _ =>
    (KeepsForm.textsAt data _).bind fun _ => (KeepsForm.textAt? data _).bind fun _ =>
    (KeepsForm.textsAt data _).bind fun _ => (KeepsForm.textAt? data _).bind fun _ =>
    (KeepsForm.textAt? data _).bind fun _ => (KeepsForm.textEntries _).bind fun _ => .ok _

end ContainerLint.Chart.Metadata
