/-
Which word of a configuration counts for a rule.

A rule may be named many times: by entries of its own, in the list of ignored rules and in
listings of levels. Its level is that of the last listing with its name; if there is none, the
rule is off if it is ignored, and else the level is that of its last entry. The options come
from the last entry alone, but for those of the rule that knows trusted registries, where a
list of these takes the place of the option. Entries and listings that do not read as such count
for nothing. All this holds of every configuration that can be read; and a configuration cannot
be read if a number too great to be written stands where a name is wanted or where a warning
would have to tell of it.
-/
import ContainerLint.Proofs.Settings.Parts

namespace ContainerLint.Settings

open ContainerLint.Text

/-! ## Trusted registries -/

theorem rule?_trust (s : Settings) (trusted : List String) (code : String) :
    (s.trust trusted).rule? code =
      if code = registryRule then
        some { (s.rule? code).getD {} with
          options := Value.put (.text "trusted") (.list (trusted.map .text))
            ((s.rule? code).getD {}).options }
      else s.rule? code := by
  have hupper : upper registryRule = registryRule := by decide +kernel
  rw [trust, rule?_update, hupper]

/-- To trust registries changes no level. -/
theorem levelOf_trust (s : Settings) (trusted : List String) (code : String) :
    (s.trust trusted).levelOf code = s.levelOf code := by
  rw [levelOf, rule?_trust]
  split
  · unfold levelOf
    cases s.rule? code <;> rfl
  · rfl

/-- To trust registries changes the options of one rule. -/
theorem optionsOf_trust (s : Settings) (trusted : List String) (code : String) :
    (s.trust trusted).optionsOf code =
      if code = registryRule then
        Value.put (.text "trusted") (.list (trusted.map .text)) (s.optionsOf code)
      else s.optionsOf code := by
  rw [optionsOf, rule?_trust]
  split
  · unfold optionsOf
    cases s.rule? code <;> rfl
  · rfl

/-! ## Precedence -/

/-- The entry that counts for a rule: the last that reads as settings. -/
def entryOf? (raw : Value) (code : String) : Option RuleSettings :=
  (entriesFor code (entriesAt raw "rules")).getLast?

/-- The options in the entry that counts for a rule. -/
def entryOptions (raw : Value) (code : String) : List (Value × Value) :=
  ((entryOf? raw code).map (·.options)).getD []

section RuleParts

variable {raw : Value} {s : Settings}

/-- Before anything else is read, a rule has what its last entry says. -/
theorem rule?_of_readRules {rules : List (String × RuleSettings)}
    (h : ReadsAs (readRules [] (entriesAt raw "rules")) rules) (code : String) :
    rule? { rules := rules } code = entryOf? raw code := by
  rw [rule?, lookup_of_readRules h, entryOf?, List.lookup_nil, Option.or_none]

/-- The last override counts, then the list of ignored rules, then the rule's own entry. -/
theorem levelOf_of_readRuleParts (h : ReadsAs (readRuleParts raw) s) (code : String) :
    s.levelOf code =
      (levelsFor code (entriesAt raw "override")).getLast?.or
        (if (itemsAt raw "ignored").any (isNamed code) then some .ignore
         else (entryOf? raw code).bind (·.level)) := by
  obtain ⟨rules, hrules, ignored, hignored, listed, hlisted, trusted, -, rfl⟩ :=
    readsAs_readRuleParts_iff.mp h
  -- from the last step of the reading to the first: registries, overrides, ignored rules, entries
  have htrust : (trustIf raw listed trusted).levelOf code = listed.levelOf code := by
    unfold trustIf
    split
    · exact levelOf_trust listed trusted code
    · rfl
  have hentry : levelOf { rules := rules } code = (entryOf? raw code).bind (·.level) := by
    rw [levelOf, rule?_of_readRules hrules]
  rw [htrust, (levelOf_of_readOverrides hlisted code).1, levelOf_setLevels, hentry]
  refine congrArg _ (if_congr ?_ rfl rfl)
  exact (any_isNamed_iff (mapM_itemsAt hignored)).symm

theorem optionsOf_listed {rules : List (String × RuleSettings)} {ignored : List String}
    {listed : Settings} (hrules : ReadsAs (readRules [] (entriesAt raw "rules")) rules)
    (hlisted : ReadsAs (readOverrides (setLevels { rules := rules } ignored .ignore)
      (entriesAt raw "override")) listed) (code : String) :
    listed.optionsOf code = entryOptions raw code := by
  rw [(levelOf_of_readOverrides hlisted code).2, optionsOf_setLevels, optionsOf,
    rule?_of_readRules hrules, entryOptions]

/-- Options come from the rule's entry, with the trusted registries put in. -/
theorem optionsOf_of_readRuleParts (h : ReadsAs (readRuleParts raw) s) (code : String) :
    ∃ trusted, (itemsAt raw "trustedRegistries").mapM Value.plain = .ok trusted ∧
      s.optionsOf code =
        if code = registryRule ∧ (raw.get? "trustedRegistries").isSome then
          Value.put (.text "trusted") (.list (trusted.map .text)) (entryOptions raw code)
        else entryOptions raw code := by
  obtain ⟨rules, hrules, ignored, -, listed, hlisted, trusted, htrusted, rfl⟩ :=
    readsAs_readRuleParts_iff.mp h
  have hoptions := optionsOf_listed hrules hlisted code
  refine ⟨trusted, mapM_itemsAt htrusted, ?_⟩
  unfold trustIf
  by_cases hword : (raw.get? "trustedRegistries").isSome = true
  · rw [if_pos hword, optionsOf_trust, hoptions]
    exact if_congr (and_iff_left hword).symm rfl rfl
  · rw [if_neg hword, if_neg fun h => hword h.2, hoptions]

end RuleParts

/-- **What counts for a rule.** A configuration is read exactly if the numbers in it that have
to be written can be written; and then the level of a rule is that of the last valid listing
that names it, or it is off if it is ignored, or the level of its last valid entry holds. The
options are those of this entry, with the trusted registries put in for the one rule that has
them. -/
theorem ofValue_precedence (raw : Value) :
    ((∃ result, ofValue raw = .ok result) ↔ IsReadable raw) ∧
      ∀ s warnings, ofValue raw = .ok (s, warnings) → ∀ code,
        s.levelOf code =
            (levelsFor code (entriesAt raw "override")).getLast?.or
              (if (itemsAt raw "ignored").any (isNamed code) then some .ignore
               else (entryOf? raw code).bind (·.level)) ∧
          ∃ trusted, (itemsAt raw "trustedRegistries").mapM Value.plain = .ok trusted ∧
            s.optionsOf code =
              if code = registryRule ∧ (raw.get? "trustedRegistries").isSome then
                Value.put (.text "trusted") (.list (trusted.map .text)) (entryOptions raw code)
              else entryOptions raw code := by
  refine ⟨exists_ofValue_iff raw, fun s warnings h code => ?_⟩
  obtain ⟨s₀, hparts, hrules⟩ := (readsAs_ofValue_iff.mp ⟨warnings, h⟩).rules
  have hrule : s.rule? code = s₀.rule? code := by rw [rule?, rule?, hrules]
  rw [levelOf, optionsOf, hrule]
  exact ⟨levelOf_of_readRuleParts hparts code, optionsOf_of_readRuleParts hparts code⟩

/-- A configuration in which everything is said more than once, and some of it wrongly. -/
def contested : Value :=
  .map [
    (.text "rules", .map [
      (.text "dl3026", .list [.text "error", .map [(.text "trusted", .list [.text "quay.io"])]]),
      (.text "DL3026", .text "loud"),
      (.text "DL3007", .bool false)]),
    (.text "ignored", .list [.text "Dl3026", .text "HL1001"]),
    (.text "override", .map [
      (.text " Warn ", .list [.text "dl3026"]),
      (.text "info", .text "DL3026"),
      (.text "loud", .list [.text "DL3026"])]),
    (.text "trustedRegistries", .text "ghcr.io")]

theorem ofValue_precedence_of_contested :
    ∃ s warnings, ofValue contested = .ok (s, warnings) ∧
      s.levelOf "DL3026" = some .warning ∧
      s.optionsOf "DL3026" = [(.text "trusted", .list [.text "ghcr.io"])] ∧
      s.levelOf "HL1001" = some .ignore ∧ s.levelOf "DL3007" = some .ignore := by
  obtain ⟨⟨s, warnings⟩, h⟩ : ∃ result, ofValue contested = .ok result := ⟨_, rfl⟩
  have hrule := (ofValue_precedence contested).2 s warnings h
  refine ⟨s, warnings, h, ?_, ?_, ?_, ?_⟩
  · rw [(hrule "DL3026").1]
    decide +kernel
  · obtain ⟨trusted, htrusted, hoptions⟩ := (hrule "DL3026").2
    cases htrusted
    rw [hoptions]
    rfl
  · rw [(hrule "HL1001").1]
    decide +kernel
  · rw [(hrule "DL3007").1]
    decide +kernel

/-- An entry that does not read as settings keeps a configuration from being read, if it is too
great a number. -/
theorem ofValue_unwritable :
    ruleOf? (.int (Int.ofNat (10 ^ maxDigits))) = none ∧
      ofValue (.map [(.text "rules", .map [(.text "DL3006", .int (Int.ofNat (10 ^ maxDigits)))])]) =
        .error .unwritable := by
  have hgreat : ¬ IsWritable (Int.ofNat (10 ^ maxDigits)) := Nat.lt_irrefl _
  -- the number itself must not be computed
  generalize Int.ofNat (10 ^ maxDigits) = n at hgreat ⊢
  have hshown : (Value.int n).shown = .error .unwritable := writeInt_eq_error hgreat
  have hrules : readRules [] [(.text "DL3006", .int n)] = .error .unwritable := by
    show ((Value.int n).shown >>= _) = _
    rw [hshown]
    rfl
  refine ⟨rfl, ?_⟩
  show (readRules [] [(.text "DL3006", .int n)] >>= _) >>= _ = _
  rw [hrules]
  rfl

end ContainerLint.Settings
