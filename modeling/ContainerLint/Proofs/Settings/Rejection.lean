/-
Values of a configuration that do not count.

A value that is not what its key takes is left out with a warning. For most keys the settings
are then those of the configuration without the key. Two keys are different. Trusted registries
that are no list leave an empty list of them behind, in the place of whatever list an entry of
the rule gives. And the threshold is looked for under the first of its spellings that is there:
if that one does not name a severity, one that does, under a spelling behind it, is not seen.
-/
import ContainerLint.Proofs.Settings.Precedence

namespace ContainerLint

open ContainerLint.Text

/-! ## Mappings without a key -/

namespace Value

/-- The mapping without what stands under a text key. -/
def without (v : Value) (key : String) : Value :=
  match v.opened with
  | .map entries => .map (entries.filter fun e => !same e.1 (.text key))
  | .ordered entries => .ordered (entries.filter fun e => !same e.1 (.text key))
  | _ => v

/-- Taking a key out leaves the others as they are. -/
theorem find?_filter (key k : String) (entries : List (Value × Value)) :
    find? (.text k) (entries.filter fun e => !same e.1 (.text key)) =
      if k = key then none else find? (.text k) entries := by
  induction entries with
  | nil => exact (ite_self none).symm
  | cons e entries ih =>
    obtain ⟨l, v⟩ := e
    by_cases hl : same l (.text key) = true
    · rw [List.filter_cons_of_neg (by simp [hl]), ih]
      by_cases hk : k = key
      · rw [if_pos hk, if_pos hk]
      · have hother : ¬ same l (.text k) = true := by
          rw [same_text_iff.mp hl, same_text_iff]
          simpa using Ne.symm hk
        rw [if_neg hk, if_neg hk, find?, if_neg hother]
    · rw [List.filter_cons_of_pos (by simp [hl]), find?, find?, ih]
      by_cases hk : k = key
      · rw [if_pos hk, if_pos hk, if_neg (hk ▸ hl)]
      · rw [if_neg hk, if_neg hk]

/-- A value without a key has the others as they are. -/
theorem get?_without (v : Value) (key k : String) :
    (v.without key).get? k = if k = key then none else v.get? k := by
  unfold without get? entries?
  cases hopened : v.opened with
  | map entries | ordered entries => exact find?_filter key k entries
  | _ =>
    dsimp only
    rw [hopened]
    exact (ite_self none).symm

/-- Putting changes nothing if the value is there already. -/
theorem put_eq_self_iff {key value : Value} {entries : List (Value × Value)} :
    put key value entries = entries ↔ find? key entries = some value := by
  induction entries with
  | nil => simp [put, find?]
  | cons e entries ih =>
    obtain ⟨k, v⟩ := e
    rw [put, find?]
    by_cases hk : same k key = true
    · rw [if_pos hk, if_pos hk]
      simp [eq_comm]
    · rw [if_neg hk, if_neg hk, List.cons_inj_right]
      exact ih

end Value

namespace Settings

variable {raw v : Value} {key k : String}

/-! ## Settings that stay as they are -/

/-- An update changes nothing if the rule is there and stays the same. -/
theorem updateRule_eq_self_iff {name : String} {f : RuleSettings → RuleSettings}
    {rules : List (String × RuleSettings)} :
    updateRule name f rules = rules ↔ ∃ r, rules.lookup name = some r ∧ f r = r := by
  induction rules with
  | nil => simp [updateRule]
  | cons entry rules ih =>
    obtain ⟨c, r⟩ := entry
    rw [updateRule, lookup_cons_eq_ite]
    by_cases hc : c = name
    · rw [if_pos (beq_iff_eq.mpr hc), if_pos hc.symm]
      simp
    · rw [if_neg (mt beq_iff_eq.mp hc), if_neg (Ne.symm hc), List.cons_inj_right]
      exact ih

/-- To trust registries changes nothing exactly if they are in the options already. -/
theorem rules_trust_eq_iff {s : Settings} {trusted : List String} :
    (s.trust trusted).rules = s.rules ↔
      Value.find? (.text "trusted") (s.optionsOf registryRule) =
        some (.list (trusted.map .text)) := by
  have hupper : upper registryRule = registryRule := by decide +kernel
  rw [trust, update, updateRule_eq_self_iff, hupper, ← rule?, optionsOf]
  cases s.rule? registryRule with
  | none => simp [Value.find?]
  | some r =>
    rw [← Value.put_eq_self_iff]
    simp only [Option.some.injEq, exists_eq_left', Option.map_some, Option.getD_some]
    exact ⟨fun h => congrArg RuleSettings.options h, fun h => by rw [h]⟩

/-! ## Parts without a key -/

theorem entriesAt_without (h : k = key → entriesAt raw k = []) :
    entriesAt (raw.without key) k = entriesAt raw k := by
  by_cases hk : k = key
  · rw [h hk, entriesAt, Value.getD, Value.get?_without, if_pos hk]
    rfl
  · rw [entriesAt, Value.getD, Value.get?_without, if_neg hk]
    rfl

/-- What is no list has no items. -/
theorem itemsAt_of_isListing_eq_false (h : isListing (raw.getD k) = false) :
    itemsAt raw k = [] := by
  unfold isListing at h
  unfold itemsAt
  cases hopened : (raw.getD k).opened with
  | text | list =>
    rw [hopened] at h
    cases h
  | _ => rfl

/-- A value that is no list is read as no texts, as if it were not there. -/
theorem readsAs_textsAt_without (h : k = key → isListing (raw.getD k) = false)
    {texts : List String} (hread : ReadsAs (textsAt raw k) texts) :
    ReadsAs (textsAt (raw.without key) k) texts := by
  by_cases hk : k = key
  · have htexts := mapM_itemsAt hread
    rw [itemsAt_of_isListing_eq_false (h hk)] at htexts
    cases htexts
    rw [textsAt_of_get?_eq_none (by rw [Value.get?_without, if_pos hk])]
    exact readsAs_ok_iff.mpr rfl
  · rw [textsAt, Value.getD, Value.get?_without, if_neg hk]
    exact hread

/-- A value that is no truth value leaves the flag to its next spelling. -/
theorem readsAs_flagAt_without {keys : List String} {b : Bool}
    (h : key ∈ keys → ∀ c, raw.get? key ≠ some (.bool c)) (hread : ReadsAs (flagAt raw keys) b) :
    ReadsAs (flagAt (raw.without key) keys) b := by
  induction keys with
  | nil => exact hread
  | cons k keys ih =>
    have hrest := ih fun hmem => h (List.mem_cons_of_mem k hmem)
    rw [readsAs_flagAt_cons_iff] at hread ⊢
    rw [Value.get?_without]
    by_cases hk : k = key
    · -- The value under the key is no truth value, so the next spelling decides either way.
      rw [if_pos hk]
      have hkind := h (hk ▸ List.mem_cons_self)
      rw [← hk] at hkind
      cases hget : raw.get? k with
      | none =>
        rw [hget] at hread
        exact hrest hread
      | some v =>
        rw [hget] at hread hkind
        cases v with
        | bool c => exact absurd rfl (hkind c)
        | _ => exact hrest hread.2
    · rw [if_neg hk]
      cases hget : raw.get? k with
      | none =>
        rw [hget] at hread
        exact hrest hread
      | some v =>
        rw [hget] at hread
        cases v with
        | bool c => exact hread
        | _ => exact ⟨hread.1, hrest hread.2⟩

theorem thresholdAt?_without (h : key ∉ thresholdKeys) :
    thresholdAt? (raw.without key) = thresholdAt? raw := by
  have hget : ∀ k ∈ thresholdKeys, (raw.without key).get? k = raw.get? k := by
    intro k hk
    have hne : k ≠ key := fun heq => h (heq ▸ hk)
    rw [Value.get?_without, if_neg hne]
  unfold thresholdAt? thresholdKeys at *
  simp only [List.forall_mem_cons] at hget
  simp only [List.findSome?_cons, List.findSome?_nil, hget]

theorem trustIf_without (h : key ≠ "trustedRegistries") (s : Settings) (trusted : List String) :
    trustIf (raw.without key) s trusted = trustIf raw s trusted := by
  rw [trustIf, trustIf, Value.get?_without, if_neg h.symm]

/-! ## Values that are not taken -/

/-- The keys of the mappings. -/
def mappingKeys : List String := ["rules", "override"]

/-- What a key stands for. -/
inductive Kind where
  | mapping | list | flag | threshold
  deriving DecidableEq

def kindOf? (key : String) : Option Kind :=
  if key ∈ mappingKeys then some .mapping
  else if key ∈ listKeys then some .list
  else if key ∈ flagKeys.flatten then some .flag
  else if key ∈ thresholdKeys then some .threshold
  else none

/-- The value can stand for what the key does. -/
def Kind.takes : Kind → Value → Bool
  | .mapping, v => v.isMap
  | .list, v => isListing v
  | .flag, .bool _ => true
  | .flag, _ => false
  | .threshold, v => (severity? v).isSome

/-- The value under a key is refused. Of the thresholds only the first that is there is looked
at. -/
structure IsRejected (raw : Value) (key : String) (v : Value) : Prop where
  get : raw.get? key = some v
  kind : ∃ kind, kindOf? key = some kind ∧ kind.takes v = false
  first : key ∈ thresholdKeys → thresholdAt? raw = some v

namespace IsRejected

/-- A key that is rejected has a value of the wrong kind. -/
theorem takes_eq_false (h : IsRejected raw key v) {kind : Kind} (hkind : kindOf? key = some kind) :
    kind.takes v = false := by
  obtain ⟨kind', hkind', hv⟩ := h.kind
  rw [hkind] at hkind'
  cases hkind'
  exact hv

theorem entriesAt_without (h : IsRejected raw key v) (hk : k ∈ mappingKeys) :
    entriesAt (raw.without key) k = entriesAt raw k := by
  refine Settings.entriesAt_without fun heq => ?_
  subst heq
  rw [entriesAt, Value.getD, h.get, Option.getD_some, orEmpty]
  split
  · have hkind : ∀ k ∈ mappingKeys, kindOf? k = some .mapping := by decide
    rw [Value.entries?_of_isMap_eq_false (h.takes_eq_false (hkind k hk))]
    rfl
  · rfl

theorem isListing_eq_false (h : IsRejected raw key v) (hk : k ∈ listKeys) (heq : k = key) :
    isListing (raw.getD k) = false := by
  subst heq
  have hkind : ∀ k ∈ listKeys, kindOf? k = some .list := by decide
  rw [Value.getD, h.get, Option.getD_some]
  exact h.takes_eq_false (hkind k hk)

theorem readsAs_textsAt (h : IsRejected raw key v) (hk : k ∈ listKeys) {texts : List String}
    (hread : ReadsAs (textsAt raw k) texts) : ReadsAs (textsAt (raw.without key) k) texts :=
  readsAs_textsAt_without (h.isListing_eq_false hk) hread

theorem readsAs_flagAt (h : IsRejected raw key v) {keys : List String} (hkeys : keys ∈ flagKeys)
    {b : Bool} (hread : ReadsAs (flagAt raw keys) b) :
    ReadsAs (flagAt (raw.without key) keys) b := by
  refine readsAs_flagAt_without (fun hmem c hget => ?_) hread
  have hkind : ∀ keys ∈ flagKeys, ∀ k ∈ keys, kindOf? k = some .flag := by decide
  have hv := h.takes_eq_false (hkind keys hkeys key hmem)
  rw [h.get] at hget
  cases hget
  cases hv

/-- A threshold of the wrong kind counts as the default, to which its other keys must come too. -/
theorem readsAs_readThreshold_iff (h : IsRejected raw key v) {level : Severity}
    (hread : ReadsAs (readThreshold raw) level) :
    ReadsAs (readThreshold (raw.without key)) level ↔ (key ∈ thresholdKeys →
      thresholdOf (raw.without key) = .style ∧
        ∀ v ∈ thresholdAt? (raw.without key), v.HasText) := by
  by_cases hkey : key ∈ thresholdKeys
  · have hkind : ∀ k ∈ thresholdKeys, kindOf? k = some .threshold := by decide
    have hlevel : severity? v = none :=
      Option.isNone_iff_eq_none.mp
        (Option.isSome_eq_false_iff.mp (h.takes_eq_false (hkind key hkey)))
    have hstyle : level = .style := by
      rw [(Settings.readsAs_readThreshold_iff.mp hread).1, thresholdOf, h.first hkey,
        Option.bind_some, hlevel, Option.getD_none]
    rw [Settings.readsAs_readThreshold_iff, imp_iff_right hkey, hstyle, eq_comm]
  · rw [Settings.readsAs_readThreshold_iff] at hread ⊢
    rw [thresholdOf, thresholdAt?_without hkey]
    exact iff_of_true hread fun hmem => absurd hmem hkey

/-- The rules stay as they are, except that trusted registries that are no list still count as
an empty list. -/
theorem exists_readRuleParts_iff (h : IsRejected raw key v) {s : Settings}
    (hread : ReadsAs (readRuleParts raw) s) :
    (∃ s', ReadsAs (readRuleParts (raw.without key)) s' ∧ s.rules = s'.rules) ↔
      (key = "trustedRegistries" →
        Value.find? (.text "trusted") (entryOptions raw registryRule) = some (.list [])) := by
  obtain ⟨rules, hrules, ignored, hignored, listed, hlisted, trusted, htrusted, rfl⟩ :=
    readsAs_readRuleParts_iff.mp hread
  have hoptions := optionsOf_listed hrules hlisted registryRule
  -- up to the trusted registries the parts are read as before
  rw [← h.entriesAt_without (by decide)] at hrules hlisted
  have hparts := readsAs_readRuleParts_iff.mpr ⟨rules, hrules, ignored,
    h.readsAs_textsAt (by decide) hignored, listed, hlisted, trusted,
    h.readsAs_textsAt (by decide) htrusted, rfl⟩
  have hiff : (∃ s', ReadsAs (readRuleParts (raw.without key)) s' ∧
      (trustIf raw listed trusted).rules = s'.rules) ↔
      (trustIf raw listed trusted).rules = (trustIf (raw.without key) listed trusted).rules :=
    ⟨fun ⟨s', hs', heq⟩ => hparts.unique hs' ▸ heq, fun heq => ⟨_, hparts, heq⟩⟩
  rw [hiff]
  by_cases hkey : key = "trustedRegistries"
  · -- With the key the rule trusts no registry, and without it is what its entry says.
    have hnone : trusted = [] := by
      have htexts := mapM_itemsAt htrusted
      rw [itemsAt_of_isListing_eq_false (h.isListing_eq_false (by decide) hkey.symm)] at htexts
      exact (Except.ok.inj htexts).symm
    subst hkey hnone
    rw [trustIf, h.get, trustIf, Value.get?_without, if_pos rfl, imp_iff_right rfl, ← hoptions]
    exact rules_trust_eq_iff
  · rw [trustIf_without hkey]
    exact iff_of_true rfl fun heq => absurd heq hkey

/-- **Without the rejected key the settings are the same**, with two exceptions. -/
theorem hasParts_without_iff (h : IsRejected raw key v) {s : Settings} (hs : HasParts raw s) :
    HasParts (raw.without key) s ↔
      (key = "trustedRegistries" →
        Value.find? (.text "trusted") (entryOptions raw registryRule) = some (.list [])) ∧
      (key ∈ thresholdKeys → thresholdOf (raw.without key) = .style ∧
        ∀ v ∈ thresholdAt? (raw.without key), v.HasText) := by
  obtain ⟨s₀, hrules, hs₀⟩ := hs.rules
  rw [← h.exists_readRuleParts_iff hrules, ← h.readsAs_readThreshold_iff hs.threshold, ← hs₀]
  constructor
  · intro hs'
    exact ⟨hs'.rules, hs'.threshold⟩
  · rintro ⟨hrules', hthreshold⟩
    exact ⟨hrules', h.readsAs_flagAt (by decide) hs.quiet, h.readsAs_flagAt (by decide) hs.debug,
      h.readsAs_flagAt (by decide) hs.ignorePragmas, h.readsAs_flagAt (by decide) hs.fixableOnly,
      h.readsAs_flagAt (by decide) hs.noFail, h.readsAs_flagAt (by decide) hs.strict,
      h.readsAs_textsAt (by decide) hs.exclude, hthreshold⟩

end IsRejected

/-- **A value that is not taken counts as if its key were absent**, with two exceptions: trusted
registries that are no list leave an empty list in the options of their rule, and a threshold that
is none hides one under the next of its keys. -/
theorem ofValue_without_iff (h : IsRejected raw key v) :
    (∃ s, ReadsAs (ofValue raw) s ∧ ReadsAs (ofValue (raw.without key)) s) ↔
      IsReadable raw ∧
      (key = "trustedRegistries" →
        Value.find? (.text "trusted") (entryOptions raw registryRule) = some (.list [])) ∧
      (key ∈ thresholdKeys → thresholdOf (raw.without key) = .style ∧
        ∀ v ∈ thresholdAt? (raw.without key), v.HasText) := by
  simp only [readsAs_ofValue_iff]
  rw [← exists_hasParts_iff, ← exists_and_right]
  exact exists_congr fun s => and_congr_right fun hs => h.hasParts_without_iff hs

/-- A list and a threshold that are not taken beside parts that are. -/
def mistyped : Value :=
  .map [
    (.text "rules", .map [(.text "DL3007", .text "info")]),
    (.text "ignored", .int 7),
    (.text "threshold", .text "extreme"),
    (.text "strict", .bool true)]

theorem ofValue_without_of_mistyped :
    (∃ s, ReadsAs (ofValue mistyped) s ∧ ReadsAs (ofValue (mistyped.without "ignored")) s) ∧
      ∃ s, ReadsAs (ofValue mistyped) s ∧ ReadsAs (ofValue (mistyped.without "threshold")) s := by
  have hreadable : IsReadable mistyped := (exists_ofValue_iff mistyped).mp ⟨_, rfl⟩
  have hlist : IsRejected mistyped "ignored" (.int 7) :=
    ⟨rfl, ⟨.list, rfl, rfl⟩, fun hkey => absurd hkey (by decide)⟩
  have hthreshold : IsRejected mistyped "threshold" (.text "extreme") :=
    ⟨rfl, ⟨.threshold, rfl, by decide +kernel⟩, fun _ => rfl⟩
  constructor
  · exact (ofValue_without_iff hlist).mpr ⟨hreadable, fun hkey => absurd hkey (by decide),
      fun hkey => absurd hkey (by decide)⟩
  · exact (ofValue_without_iff hthreshold).mpr ⟨hreadable, fun hkey => absurd hkey (by decide),
      fun _ => ⟨rfl, fun v hv => absurd hv (Option.not_mem_none v)⟩⟩

/-- Both exceptions occur: a number in place of trusted registries trusts none, where no word on
them leaves their rule alone, and an unknown threshold hides a known one. -/
theorem ofValue_without_differs :
    (IsRejected (.map [(.text "trustedRegistries", .int 5)]) "trustedRegistries" (.int 5) ∧
      ReadsAs (ofValue (.map [(.text "trustedRegistries", .int 5)]))
        { rules := [("DL3026", { options := [(.text "trusted", .list [])] })] } ∧
      ReadsAs (ofValue (.map [])) {}) ∧
    IsRejected (.map [(.text "threshold", .text "extreme"),
      (.text "failure-threshold", .text "warning")]) "threshold" (.text "extreme") ∧
    ReadsAs (ofValue (.map [(.text "threshold", .text "extreme"),
      (.text "failure-threshold", .text "warning")])) {} ∧
    ReadsAs (ofValue (.map [(.text "failure-threshold", .text "warning")]))
      { threshold := .warning } :=
  ⟨⟨⟨rfl, ⟨.list, rfl, rfl⟩, fun hkey => absurd hkey (by decide)⟩, ⟨_, rfl⟩, ⟨_, rfl⟩⟩,
    ⟨rfl, ⟨.threshold, rfl, by decide +kernel⟩, fun _ => rfl⟩, ⟨_, rfl⟩, ⟨_, rfl⟩⟩

end Settings

end ContainerLint
