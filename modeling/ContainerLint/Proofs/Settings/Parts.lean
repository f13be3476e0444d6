/-
The parts of a configuration.

Settings are read part by part, and each part looks at the values under its own keys and at
nothing else. So a configuration can be read exactly if each of its parts can, and what it is
read as is put together of what the parts are read as. A part cannot be read only where a
number has to be written that is too great for it: in the name of a rule or of a file, or in a
warning about a value that does not count.
-/
import ContainerLint.Proofs.Settings.Rules

namespace ContainerLint

open ContainerLint.Text

namespace Value

theorem entries?_of_isMap_eq_false {v : Value} (h : v.isMap = false) : v.entries? = none := by
  cases v with
  | map | ordered => cases h
  | knot id inner =>
    cases inner with
    | map | ordered => cases h
    | again i shape =>
      by_cases hi : (i == id) = true
      · simp only [entries?, opened, fill, if_pos hi]
      · simp only [entries?, opened, fill, if_neg hi]
    | knot i inner =>
      by_cases hi : (i == id) = true
      · simp only [entries?, opened, fill, if_pos hi]
      · simp only [entries?, opened, fill, if_neg hi]
    | _ => rfl
  | _ => rfl

theorem entries?_of_isTrue_eq_false {v : Value} (h : v.isTrue = false) :
    v.entries? = none ∨ v.entries? = some [] := by
  by_cases hmap : v.isMap = true
  · refine .inr ?_
    cases v with
    | map entries | ordered entries =>
      obtain rfl : entries = [] := by simpa [isTrue, bare] using h
      rfl
    | knot id inner =>
      cases inner with
      | map entries | ordered entries =>
        obtain rfl : entries = [] := by simpa [isTrue, bare] using h
        rfl
      | _ => cases hmap
    | _ => cases hmap
  · exact .inl (entries?_of_isMap_eq_false (Bool.eq_false_iff.mpr hmap))

theorem get?_of_isMap_eq_false {v : Value} (h : v.isMap = false) (key : String) :
    v.get? key = none := by
  rw [get?, entries?_of_isMap_eq_false h]
  rfl

/-- What counts as nothing has nothing under any key. -/
theorem get?_of_isTrue_eq_false {v : Value} (h : v.isTrue = false) (key : String) :
    v.get? key = none := by
  rw [get?]
  rcases entries?_of_isTrue_eq_false h with hentries | hentries
  · rw [hentries]
    rfl
  · rw [hentries]
    rfl

end Value

namespace Settings

variable {raw raw' : Value} {key : String}

/-! ## Values under keys -/

/-- The entries of a part that is a mapping; none if it is no mapping. -/
def entriesAt (raw : Value) (key : String) : List (Value × Value) :=
  (orEmpty (raw.getD key)).entries?.getD []

/-- The items of a part that is a list; a text counts as one item, and anything else as none. -/
def itemsAt (raw : Value) (key : String) : List Value :=
  match (raw.getD key).opened with
  | .text s => [.text s]
  | .list items => items
  | _ => []

/-- The value is taken for a list: it is one, or a text, or absent. -/
def isListing (v : Value) : Bool :=
  match v.opened with
  | .null | .text _ | .list _ => true
  | _ => false

/-- A list that is read is made of its items' texts. -/
theorem mapM_itemsAt {texts : List String} (h : ReadsAs (textsAt raw key) texts) :
    (itemsAt raw key).mapM Value.plain = .ok texts := by
  obtain ⟨w, h⟩ := h
  unfold textsAt at h
  unfold itemsAt
  -- a text alone is a list of one, and other values are warned about
  cases hopened : (raw.getD key).opened with
  | null | text =>
    rw [hopened] at h
    cases h
    rfl
  | list items =>
    rw [hopened] at h
    obtain ⟨_, htexts, h⟩ := bind_eq_ok_iff.mp h
    cases h
    exact htexts
  | _ =>
    rw [hopened] at h
    obtain ⟨_, -, h⟩ := bind_eq_ok_iff.mp h
    cases h
    rfl

/-- The items of a list have a text, or what stands in place of a list has one. -/
def ListHasText (raw : Value) (key : String) : Prop :=
  (∀ item ∈ itemsAt raw key, item.HasText) ∧
    (isListing (raw.getD key) = false → (raw.getD key).HasText)

/-- A list can be read if its items have texts. -/
theorem exists_textsAt_iff :
    (∃ texts, ReadsAs (textsAt raw key) texts) ↔ ListHasText raw key := by
  rw [exists_readsAs_iff]
  unfold textsAt ListHasText itemsAt isListing
  cases hopened : (raw.getD key).opened with
  | null => exact iff_of_true ⟨_, rfl⟩ ⟨List.forall_mem_nil _, Bool.noConfusion⟩
  | text s =>
    exact iff_of_true ⟨_, rfl⟩ ⟨List.forall_mem_singleton.mpr (hasText_text s), Bool.noConfusion⟩
  | list items =>
    dsimp only
    rw [exists_bind_pure_iff, exists_mapM_plain_iff]
    exact (and_iff_left Bool.noConfusion).symm
  | _ =>
    dsimp only
    rw [exists_bind_pure_iff, Value.exists_shown_iff, imp_iff_right rfl]
    exact (and_iff_right (List.forall_mem_nil _)).symm

/-- The values under the keys of a flag have a text, as far as they are looked at: up to the
first that is a truth value. -/
def FlagHasText (raw : Value) : List String → Prop
  | [] => True
  | key :: keys =>
    match raw.get? key with
    | none => FlagHasText raw keys
    | some (.bool _) => True
    | some v => v.HasText ∧ FlagHasText raw keys

/-- A flag is read under its first spelling that has a truth value. -/
theorem readsAs_flagAt_cons_iff {keys : List String} {b : Bool} :
    ReadsAs (flagAt raw (key :: keys)) b ↔
      match raw.get? key with
      | none => ReadsAs (flagAt raw keys) b
      | some (.bool c) => b = c
      | some v => v.HasText ∧ ReadsAs (flagAt raw keys) b := by
  rw [flagAt]
  cases raw.get? key with
  | none => rfl
  | some v =>
    cases v with
    | bool c => exact readsAs_ok_iff
    | _ =>
      dsimp only
      constructor
      · rintro ⟨w, h⟩
        obtain ⟨shown, hshown, h⟩ := bind_eq_ok_iff.mp h
        obtain ⟨⟨c, w⟩, hrest, h⟩ := bind_eq_ok_iff.mp h
        cases h
        exact ⟨(Value.exists_shown_iff _).mp ⟨shown, hshown⟩, w, hrest⟩
      · rintro ⟨htext, w, hrest⟩
        obtain ⟨shown, hshown⟩ := (Value.exists_shown_iff _).mpr htext
        exact ⟨_, bind_eq_ok_iff.mpr ⟨shown, hshown, bind_eq_ok_iff.mpr ⟨_, hrest, rfl⟩⟩⟩

/-- A flag can be read if the values passed over have texts. -/
theorem exists_flagAt_iff {keys : List String} :
    (∃ b, ReadsAs (flagAt raw keys) b) ↔ FlagHasText raw keys := by
  induction keys with
  | nil => exact iff_of_true ⟨_, readsAs_ok_iff.mpr rfl⟩ trivial
  | cons key keys ih =>
    rw [FlagHasText]
    simp only [readsAs_flagAt_cons_iff]
    cases raw.get? key with
    | none => exact ih
    | some v =>
      cases v with
      | bool b => exact iff_of_true ⟨_, rfl⟩ trivial
      | _ =>
        dsimp only
        rw [exists_and_left, ih]

/-- The value that counts as the threshold. -/
def thresholdAt? (raw : Value) : Option Value :=
  thresholdKeys.findSome? fun key => raw.get? key

/-- The threshold that holds: the one that is written, or the one by default. -/
def thresholdOf (raw : Value) : Severity := ((thresholdAt? raw).bind severity?).getD .style

/-- The threshold is read under the first of its keys that is there. -/
theorem readsAs_readThreshold_iff {level : Severity} :
    ReadsAs (readThreshold raw) level ↔
      level = thresholdOf raw ∧ ∀ v ∈ thresholdAt? raw, v.HasText := by
  rw [readThreshold, thresholdOf, ← thresholdAt?]
  cases thresholdAt? raw with
  | none =>
    exact readsAs_ok_iff.trans (and_iff_left fun v h => absurd h (Option.not_mem_none v)).symm
  | some v =>
    simp only [Option.mem_def, Option.some.injEq, forall_eq', Option.bind_some]
    cases hlevel : severity? v with
    -- a level that is known has a text; any other is shown in a warning and left out
    | some l => exact readsAs_ok_iff.trans (and_iff_left (hasText_of_severity? hlevel)).symm
    | none =>
      dsimp only
      rw [← Value.exists_shown_iff, Option.getD_none]
      constructor
      · rintro ⟨w, h⟩
        obtain ⟨shown, hshown, h⟩ := bind_eq_ok_iff.mp h
        cases h
        exact ⟨rfl, shown, hshown⟩
      · rintro ⟨rfl, shown, hshown⟩
        exact ⟨_, bind_eq_ok_iff.mpr ⟨shown, hshown, rfl⟩⟩

theorem exists_readThreshold_iff :
    (∃ level, ReadsAs (readThreshold raw) level) ↔ ∀ v ∈ thresholdAt? raw, v.HasText := by
  simp only [readsAs_readThreshold_iff, exists_and_right, exists_eq, true_and]

/-! ## The parts that name rules -/

theorem readsAs_readEntries_iff {rules : List (String × RuleSettings)} :
    ReadsAs (readEntries raw) rules ↔ ReadsAs (readRules [] (entriesAt raw "rules")) rules := by
  unfold readEntries entriesAt
  cases (orEmpty (raw.getD "rules")).entries? with
  | none => exact readsAs_ok_iff.trans readsAs_ok_iff.symm
  | some entries => rfl

theorem readsAs_readListings_iff {s listed : Settings} :
    ReadsAs (readListings raw s) listed ↔
      ReadsAs (readOverrides s (entriesAt raw "override")) listed := by
  unfold readListings entriesAt
  cases (orEmpty (raw.getD "override")).entries? with
  | none => exact readsAs_ok_iff.trans readsAs_ok_iff.symm
  | some listings => rfl

/-- The settings with some registries as those that are trusted, if the configuration has a
word on them. -/
def trustIf (raw : Value) (s : Settings) (trusted : List String) : Settings :=
  if (raw.get? "trustedRegistries").isSome then s.trust trusted else s

theorem textsAt_of_get?_eq_none (h : raw.get? key = none) : textsAt raw key = .ok ([], []) := by
  rw [textsAt, Value.getD, h]
  rfl

/-- Trusted registries are set only where they are given. -/
theorem readsAs_readTrusted_iff {s result : Settings} :
    ReadsAs (readTrusted raw s) result ↔
      ∃ trusted, ReadsAs (textsAt raw "trustedRegistries") trusted ∧
        result = trustIf raw s trusted := by
  unfold readTrusted trustIf
  cases hget : raw.get? "trustedRegistries" with
  | none =>
    rw [textsAt_of_get?_eq_none hget]
    exact readsAs_ok_iff.trans
      ⟨fun h => ⟨[], readsAs_ok_iff.mpr rfl, h⟩, fun ⟨_, _, h⟩ => h⟩
  | some v => exact readsAs_bind_iff fun trusted _ => readsAs_ok_iff

/-- **The parts that name rules are read one after the other**: entries, ignored rules,
listings, trusted registries. -/
theorem readsAs_readRuleParts_iff {s : Settings} :
    ReadsAs (readRuleParts raw) s ↔
      ∃ rules, ReadsAs (readRules [] (entriesAt raw "rules")) rules ∧
      ∃ ignored, ReadsAs (textsAt raw "ignored") ignored ∧
      ∃ listed, ReadsAs (readOverrides (setLevels { rules := rules } ignored .ignore)
        (entriesAt raw "override")) listed ∧
      ∃ trusted, ReadsAs (textsAt raw "trustedRegistries") trusted ∧
        s = trustIf raw listed trusted := by
  unfold readRuleParts
  refine Iff.trans (readsAs_bind_iff fun rules _ => readsAs_bind_iff fun ignored _ =>
    readsAs_bind_iff fun listed _ => readsAs_bind_iff fun s _ => readsAs_ok_iff) ?_
  simp only [readsAs_readEntries_iff, readsAs_readListings_iff, readsAs_readTrusted_iff,
    exists_eq_right']

/-! ## All parts -/

/-- The keys of the flags, with all their spellings. -/
def flagKeys : List (List String) :=
  [["quiet"], ["debug"], ["disableIgnorePragma", "disable-ignore-pragma"],
    ["fixableOnly", "fixable-only"], ["no-fail", "noFail"], ["strict"]]

/-- The keys of the lists. -/
def listKeys : List String := ["ignored", "trustedRegistries", "exclude"]

/-- What the parts of a configuration are read as. -/
structure HasParts (raw : Value) (s : Settings) : Prop where
  rules : ∃ s₀, ReadsAs (readRuleParts raw) s₀ ∧ s.rules = s₀.rules
  quiet : ReadsAs (flagAt raw ["quiet"]) s.quiet
  debug : ReadsAs (flagAt raw ["debug"]) s.debug
  ignorePragmas :
    ReadsAs (flagAt raw ["disableIgnorePragma", "disable-ignore-pragma"]) s.ignorePragmas
  fixableOnly : ReadsAs (flagAt raw ["fixableOnly", "fixable-only"]) s.fixableOnly
  noFail : ReadsAs (flagAt raw ["no-fail", "noFail"]) s.noFail
  strict : ReadsAs (flagAt raw ["strict"]) s.strict
  exclude : ReadsAs (textsAt raw "exclude") s.exclude
  threshold : ReadsAs (readThreshold raw) s.threshold

/-- Settings are read from a mapping part by part. -/
theorem readsAs_readMapping_iff {s : Settings} :
    ReadsAs (readMapping raw) s ↔ HasParts raw s := by
  unfold readMapping
  refine Iff.trans (readsAs_bind_iff fun s₀ _ => readsAs_bind_iff fun quiet _ =>
    readsAs_bind_iff fun debug _ => readsAs_bind_iff fun ignorePragmas _ =>
    readsAs_bind_iff fun fixableOnly _ => readsAs_bind_iff fun noFail _ =>
    readsAs_bind_iff fun strict _ => readsAs_bind_iff fun exclude _ =>
    readsAs_bind_iff fun threshold _ => readsAs_ok_iff) ?_
  constructor
  · rintro ⟨s₀, hrules, quiet, hquiet, debug, hdebug, ignorePragmas, hpragmas, fixableOnly,
      hfixable, noFail, hnoFail, strict, hstrict, exclude, hexclude, threshold, hthreshold, rfl⟩
    exact ⟨⟨s₀, hrules, rfl⟩, hquiet, hdebug, hpragmas, hfixable, hnoFail, hstrict, hexclude,
      hthreshold⟩
  · rintro ⟨⟨s₀, hrules, hs⟩, hquiet, hdebug, hpragmas, hfixable, hnoFail, hstrict, hexclude,
      hthreshold⟩
    refine ⟨s₀, hrules, _, hquiet, _, hdebug, _, hpragmas, _, hfixable, _, hnoFail, _, hstrict, _,
      hexclude, _, hthreshold, ?_⟩
    rw [← hs]

/-- A value with nothing under any key is read as the settings that hold by default. -/
theorem readMapping_of_get?_eq_none (h : ∀ key, raw.get? key = none) :
    readMapping raw = .ok ({}, []) := by
  have htexts : ∀ key, textsAt raw key = .ok ([], []) := fun key => textsAt_of_get?_eq_none (h key)
  simp only [readMapping, readRuleParts, readEntries, readListings, readTrusted, readThreshold,
    thresholdKeys, flagAt, Value.getD, htexts, h]
  rfl

/-- **A configuration is read part by part**, and without parts if it is no mapping. -/
theorem readsAs_ofValue_iff {s : Settings} : ReadsAs (ofValue raw) s ↔ HasParts raw s := by
  rw [← readsAs_readMapping_iff, ofValue]
  cases htrue : raw.isTrue with
  | false =>
    rw [readMapping_of_get?_eq_none (Value.get?_of_isTrue_eq_false htrue)]
    exact readsAs_ok_iff.trans readsAs_ok_iff.symm
  | true =>
    cases hmap : raw.isMap with
    | false =>
      rw [readMapping_of_get?_eq_none (Value.get?_of_isMap_eq_false hmap)]
      exact readsAs_ok_iff.trans readsAs_ok_iff.symm
    | true => rfl

/-! ## Configurations that can be read -/

/-- Every number that has to be written while a configuration is read can be written. -/
structure IsReadable (raw : Value) : Prop where
  rules : ∀ e ∈ entriesAt raw "rules", e.1.HasText ∧ (ruleOf? e.2 = none → e.2.HasText)
  overrides : ∀ e ∈ entriesAt raw "override", e.1.HasText ∧ ∀ level items,
    severity? e.1 = some level → e.2.items? = some items → ∀ item ∈ items, item.HasText
  lists : ∀ key ∈ listKeys, ListHasText raw key
  flags : ∀ keys ∈ flagKeys, FlagHasText raw keys
  threshold : ∀ v ∈ thresholdAt? raw, v.HasText

/-- Settings can be read if each part can. -/
theorem exists_hasParts_iff : (∃ s, HasParts raw s) ↔ IsReadable raw := by
  constructor
  · rintro ⟨s, ⟨s₀, hrules, -⟩, hquiet, hdebug, hpragmas, hfixable, hnoFail, hstrict, hexclude,
      hthreshold⟩
    obtain ⟨rules, hrules, ignored, hignored, listed, hlisted, trusted, htrusted, -⟩ :=
      readsAs_readRuleParts_iff.mp hrules
    -- three lists, six flags, the threshold and the rules
    have htexts : ∀ {key texts}, ReadsAs (textsAt raw key) texts → ListHasText raw key :=
      fun h => exists_textsAt_iff.mp ⟨_, h⟩
    have hflag : ∀ {keys b}, ReadsAs (flagAt raw keys) b → FlagHasText raw keys :=
      fun h => exists_flagAt_iff.mp ⟨_, h⟩
    refine ⟨exists_readRules_iff.mp (exists_readsAs_iff.mp ⟨_, hrules⟩),
      exists_readOverrides_iff.mp (exists_readsAs_iff.mp ⟨_, hlisted⟩), ?_, ?_,
      exists_readThreshold_iff.mp ⟨_, hthreshold⟩⟩
    · simpa [listKeys] using ⟨htexts hignored, htexts htrusted, htexts hexclude⟩
    · simpa [flagKeys] using ⟨hflag hquiet, hflag hdebug, hflag hpragmas, hflag hfixable,
        hflag hnoFail, hflag hstrict⟩
  · rintro ⟨hrules, hoverrides, hlists, hflags, hthreshold⟩
    simp only [listKeys, flagKeys, List.forall_mem_cons, List.not_mem_nil, false_imp_iff,
      implies_true, ← exists_textsAt_iff, ← exists_flagAt_iff] at hlists hflags
    obtain ⟨⟨ignored, hignored⟩, ⟨trusted, htrusted⟩, ⟨exclude, hexclude⟩, -⟩ := hlists
    obtain ⟨⟨quiet, hquiet⟩, ⟨debug, hdebug⟩, ⟨ignorePragmas, hpragmas⟩,
      ⟨fixableOnly, hfixable⟩, ⟨noFail, hnoFail⟩, ⟨strict, hstrict⟩, -⟩ := hflags
    obtain ⟨threshold, hthreshold⟩ := exists_readThreshold_iff.mpr hthreshold
    obtain ⟨rules, hrules⟩ := exists_readsAs_iff.mpr (exists_readRules_iff.mpr hrules)
    obtain ⟨listed, hlisted⟩ := exists_readsAs_iff.mpr (exists_readOverrides_iff.mpr hoverrides)
    have hparts := readsAs_readRuleParts_iff.mpr
      ⟨rules, hrules, ignored, hignored, listed, hlisted, trusted, htrusted, rfl⟩
    exact ⟨⟨(trustIf raw listed trusted).rules, quiet, debug, exclude, threshold, ignorePragmas,
      fixableOnly, noFail, strict⟩, ⟨_, hparts, rfl⟩, hquiet, hdebug, hpragmas, hfixable, hnoFail,
      hstrict, hexclude, hthreshold⟩

/-- **A configuration can be read exactly if what has to be written can be written.** -/
theorem exists_ofValue_iff (raw : Value) :
    (∃ result, ofValue raw = .ok result) ↔ IsReadable raw := by
  rw [← exists_readsAs_iff, ← exists_hasParts_iff]
  exact exists_congr fun s => readsAs_ofValue_iff

end Settings

end ContainerLint
