/-
What a configuration does to the settings of one rule.

Three of its parts name rules. An entry of `rules` takes the place of all that the rule had; a
name in the list of ignored rules or in a listing of levels changes the level alone. So of all
that is written for a rule, the last entry and the last listing count. What does not read as an
entry or as a listing is left out, and the settings are as if it were not there, as long as the
warning about it can be written.
-/
import ContainerLint.Proofs.Value.Render
import ContainerLint.Settings.Read

namespace ContainerLint

open ContainerLint.Text

/-! ## Reading with warnings -/

section ReadsAs

variable {α β : Type}

/-- The part is read as the given value, whatever is said on the way. -/
def ReadsAs (x : Except NumeralError (Warned α)) (a : α) : Prop :=
  ∃ warnings, x = .ok (a, warnings)

theorem readsAs_ok_iff {a b : α} {warnings : List SettingsWarning} :
    ReadsAs (.ok (a, warnings)) b ↔ b = a :=
  ⟨fun ⟨_, h⟩ => (congrArg Prod.fst (Except.ok.inj h)).symm, fun h => ⟨warnings, h ▸ rfl⟩⟩

/-- A reading gives one result. -/
theorem ReadsAs.unique {x : Except NumeralError (Warned α)} {a b : α} (ha : ReadsAs x a)
    (hb : ReadsAs x b) : a = b := by
  obtain ⟨w, ha⟩ := ha
  obtain ⟨w', hb⟩ := hb
  exact congrArg Prod.fst (Except.ok.inj (ha.symm.trans hb))

theorem exists_readsAs_iff {x : Except NumeralError (Warned α)} :
    (∃ a, ReadsAs x a) ↔ ∃ result, x = .ok result :=
  ⟨fun ⟨a, w, h⟩ => ⟨(a, w), h⟩, fun ⟨⟨a, w⟩, h⟩ => ⟨a, w, h⟩⟩

/-- A part is read after another one, whose warnings are only handed on. -/
theorem readsAs_bind_iff {x : Except NumeralError (Warned α)}
    {f : Warned α → Except NumeralError (Warned β)} {Q : α → Prop} {b : β}
    (hf : ∀ a warnings, ReadsAs (f (a, warnings)) b ↔ Q a) :
    ReadsAs (x >>= f) b ↔ ∃ a, ReadsAs x a ∧ Q a := by
  constructor
  · rintro ⟨w, h⟩
    obtain ⟨⟨a, w'⟩, hx, hb⟩ := bind_eq_ok_iff.mp h
    exact ⟨a, ⟨w', hx⟩, (hf a w').mp ⟨w, hb⟩⟩
  · rintro ⟨a, ⟨w', hx⟩, ha⟩
    obtain ⟨w, hb⟩ := (hf a w').mpr ha
    exact ⟨w, bind_eq_ok_iff.mpr ⟨(a, w'), hx, hb⟩⟩

end ReadsAs

namespace Settings

/-! ## The settings of one rule -/

/-- The level that a rule is set to. -/
def levelOf (s : Settings) (code : String) : Option Severity :=
  (s.rule? code).bind (·.level)

/-- An update reaches one rule. -/
theorem lookup_updateRule (name code : String) (f : RuleSettings → RuleSettings)
    (rules : List (String × RuleSettings)) :
    (updateRule name f rules).lookup code =
      if code = name then some (f ((rules.lookup code).getD {})) else rules.lookup code := by
  induction rules with
  | nil => exact lookup_cons_eq_ite name code (f {}) []
  | cons entry rules ih =>
    obtain ⟨c, r⟩ := entry
    rw [updateRule]
    by_cases hc : c = name
    · rw [if_pos (beq_iff_eq.mpr hc), lookup_cons_eq_ite, lookup_cons_eq_ite, hc]
      by_cases hcode : code = name
      · rw [if_pos hcode, if_pos hcode, if_pos hcode]
        rfl
      · rw [if_neg hcode, if_neg hcode, if_neg hcode]
    · rw [if_neg (mt beq_iff_eq.mp hc), lookup_cons_eq_ite, lookup_cons_eq_ite, ih]
      by_cases hcode : code = c
      · rw [if_pos hcode, if_neg (hcode ▸ hc), if_pos hcode]
      · rw [if_neg hcode, if_neg hcode]

theorem rule?_update (s : Settings) (name code : String) (f : RuleSettings → RuleSettings) :
    (s.update name f).rule? code =
      if code = upper name then some (f ((s.rule? code).getD {})) else s.rule? code :=
  lookup_updateRule (upper name) code f s.rules

/-- Setting a level sets that of the rule, whatever the case of its name. -/
theorem levelOf_setLevel (s : Settings) (name code : String) (level : Option Severity) :
    (s.setLevel name level).levelOf code =
      if code = upper name then level else s.levelOf code := by
  rw [levelOf, setLevel, rule?_update]
  split
  · rfl
  · rfl

/-- Setting a level sets no options. -/
theorem optionsOf_setLevel (s : Settings) (name code : String) (level : Option Severity) :
    (s.setLevel name level).optionsOf code = s.optionsOf code := by
  rw [optionsOf, setLevel, rule?_update]
  split
  · unfold optionsOf
    cases s.rule? code <;> rfl
  · rfl

/-- Levels can be set for many rules at once. -/
theorem levelOf_setLevels (s : Settings) (names : List String) (level : Severity) (code : String) :
    (s.setLevels names level).levelOf code =
      if code ∈ names.map upper then some level else s.levelOf code := by
  unfold setLevels
  induction names generalizing s with
  | nil => rfl
  | cons name names ih =>
    rw [List.foldl_cons, ih, levelOf_setLevel, List.map_cons]
    by_cases hrest : code ∈ names.map upper
    · rw [if_pos hrest, if_pos (List.mem_cons_of_mem _ hrest)]
    · rw [if_neg hrest]
      by_cases hname : code = upper name
      · rw [if_pos hname, if_pos (hname ▸ List.mem_cons_self)]
      · rw [if_neg hname, if_neg (mt List.mem_cons.mp (not_or.mpr ⟨hname, hrest⟩))]

theorem optionsOf_setLevels (s : Settings) (names : List String) (level : Severity)
    (code : String) : (s.setLevels names level).optionsOf code = s.optionsOf code := by
  unfold setLevels
  induction names generalizing s with
  | nil => rfl
  | cons name names ih => rw [List.foldl_cons, ih, optionsOf_setLevel]

/-! ## Names -/

/-- The value is written as the code, in upper or lower case. -/
def isNamed (code : String) (v : Value) : Bool :=
  match v.plain with
  | .ok name => upper name == code
  | .error _ => false

theorem isNamed_iff {code name : String} {v : Value} (h : v.plain = .ok name) :
    isNamed code v = true ↔ code = upper name := by
  rw [isNamed, h]
  exact beq_iff_eq.trans eq_comm

/-- Some of the values name the code exactly if it is among their names. -/
theorem any_isNamed_iff {code : String} {items : List Value} {names : List String}
    (h : items.mapM Value.plain = .ok names) :
    items.any (isNamed code) = true ↔ code ∈ names.map upper := by
  have hstep := mapM_eq_ok_iff.mp h
  rw [List.any_eq_true, List.mem_map]
  constructor
  · rintro ⟨item, hitem, hnamed⟩
    obtain ⟨name, hname, hplain⟩ := exists_of_mem_left hstep hitem
    exact ⟨name, hname, ((isNamed_iff hplain).mp hnamed).symm⟩
  · rintro ⟨name, hname, hcode⟩
    obtain ⟨item, hitem, hplain⟩ := exists_of_mem_right hstep hname
    exact ⟨item, hitem, (isNamed_iff hplain).mpr hcode.symm⟩

/-! ## Entries -/

/-- The settings in the entries for a rule, those left out that do not read as settings. -/
def entriesFor (code : String) (entries : List (Value × Value)) : List RuleSettings :=
  entries.filterMap fun e => if isNamed code e.1 then ruleOf? e.2 else none

/-- The last of the later ones counts, else the first. -/
theorem getLast?_cons_or {α : Type} (a : α) (as : List α) (before : Option α) :
    (a :: as).getLast?.or before = as.getLast?.or (some a) := by
  rw [List.getLast?_cons]
  cases as.getLast? <;> rfl

/-- **The last entry of a rule counts.** -/
theorem lookup_of_readRules {rules rules' : List (String × RuleSettings)}
    {entries : List (Value × Value)} (h : ReadsAs (readRules rules entries) rules')
    (code : String) :
    rules'.lookup code = (entriesFor code entries).getLast?.or (rules.lookup code) := by
  induction entries generalizing rules with
  | nil =>
    rw [readRules, readsAs_ok_iff] at h
    rw [h]
    rfl
  | cons e entries ih =>
    obtain ⟨key, entry⟩ := e
    obtain ⟨w, h⟩ := h
    rw [readRules] at h
    obtain ⟨name, hname, h⟩ := bind_eq_ok_iff.mp h
    cases hrule : ruleOf? entry with
    | none =>
      rw [hrule] at h
      obtain ⟨text, -, h⟩ := bind_eq_ok_iff.mp h
      obtain ⟨⟨rest, w'⟩, hrest, h⟩ := bind_eq_ok_iff.mp h
      cases h
      -- an entry of the wrong kind is warned about and skipped
      have hskip : entriesFor code ((key, entry) :: entries) = entriesFor code entries :=
        List.filterMap_cons_none (by rw [hrule, ite_self])
      rw [ih ⟨w', hrest⟩, hskip]
    | some r =>
      rw [hrule] at h
      rw [ih ⟨w, h⟩, lookup_updateRule]
      by_cases hcode : code = upper name
      · have hkeep : entriesFor code ((key, entry) :: entries) = r :: entriesFor code entries :=
          List.filterMap_cons_some (by rw [if_pos ((isNamed_iff hname).mpr hcode), hrule])
        rw [if_pos hcode, hkeep, getLast?_cons_or]
      · have hskip : entriesFor code ((key, entry) :: entries) = entriesFor code entries :=
          List.filterMap_cons_none (if_neg fun hnamed => hcode ((isNamed_iff hname).mp hnamed))
        rw [if_neg hcode, hskip]

/-- Entries can be read exactly if their keys have a text, and those have one that a warning
is about. -/
theorem exists_readRules_iff {rules : List (String × RuleSettings)}
    {entries : List (Value × Value)} :
    (∃ result, readRules rules entries = .ok result) ↔
      ∀ e ∈ entries, e.1.HasText ∧ (ruleOf? e.2 = none → e.2.HasText) := by
  induction entries generalizing rules with
  | nil => exact iff_of_true ⟨_, rfl⟩ (List.forall_mem_nil _)
  | cons e entries ih =>
    obtain ⟨key, entry⟩ := e
    rw [readRules, List.forall_mem_cons, ← Value.exists_plain_iff, and_assoc]
    refine exists_bind_iff_and fun name => ?_
    cases hrule : ruleOf? entry with
    | none =>
      rw [imp_iff_right rfl, ← Value.exists_shown_iff]
      exact exists_bind_iff_and fun text => exists_bind_pure_iff.trans ih
    | some r =>
      rw [and_iff_right fun hnone => absurd hnone (Option.some_ne_none r)]
      exact ih

/-! ## Listings -/

/-- The levels of the listings that name a rule, those left out that are no level with a list. -/
def levelsFor (code : String) (listings : List (Value × Value)) : List Severity :=
  listings.filterMap fun listing =>
    match severity? listing.1, listing.2.items? with
    | some level, some items => if items.any (isNamed code) then some level else none
    | _, _ => none

/-- A list under a known level gives it to the rules it names. -/
theorem levelsFor_cons_of_valid {code : String} {key codes : Value} {level : Severity}
    {items : List Value} {names : List String} (hlevel : severity? key = some level)
    (hitems : codes.items? = some items) (hnames : items.mapM Value.plain = .ok names)
    (listings : List (Value × Value)) :
    levelsFor code ((key, codes) :: listings) =
      if code ∈ names.map upper then level :: levelsFor code listings
      else levelsFor code listings := by
  rw [levelsFor, List.filterMap_cons, hlevel, hitems]
  by_cases hcode : code ∈ names.map upper
  · rw [if_pos hcode]
    dsimp only
    rw [if_pos ((any_isNamed_iff hnames).mpr hcode)]
    rfl
  · rw [if_neg hcode]
    dsimp only
    rw [if_neg fun hnamed => hcode ((any_isNamed_iff hnames).mp hnamed)]
    rfl

/-- Any other entry gives none. -/
theorem levelsFor_cons_of_invalid {key codes : Value}
    (h : ∀ level items, severity? key = some level → codes.items? = some items → False)
    (code : String) (listings : List (Value × Value)) :
    levelsFor code ((key, codes) :: listings) = levelsFor code listings := by
  refine List.filterMap_cons_none ?_
  dsimp only
  split
  next level items hlevel hitems => exact absurd hitems (h level items hlevel)
  next => rfl

/-- **The last listing of a rule counts**, and no listing changes options. -/
theorem levelOf_of_readOverrides {s s' : Settings} {listings : List (Value × Value)}
    (h : ReadsAs (readOverrides s listings) s') (code : String) :
    s'.levelOf code = (levelsFor code listings).getLast?.or (s.levelOf code) ∧
      s'.optionsOf code = s.optionsOf code := by
  induction listings generalizing s with
  | nil =>
    rw [readOverrides, readsAs_ok_iff] at h
    rw [h]
    exact ⟨rfl, rfl⟩
  | cons listing listings ih =>
    obtain ⟨key, codes⟩ := listing
    obtain ⟨w, h⟩ := h
    rw [readOverrides] at h
    split at h
    next level items hlevel hitems =>
      obtain ⟨names, hnames, h⟩ := bind_eq_ok_iff.mp h
      obtain ⟨hlast, hoptions⟩ := ih ⟨w, h⟩
      -- later listings come first, then this one, then what was there before
      rw [hlast, hoptions, levelOf_setLevels, levelsFor_cons_of_valid hlevel hitems hnames]
      refine ⟨?_, optionsOf_setLevels s names level code⟩
      by_cases hcode : code ∈ names.map upper
      · rw [if_pos hcode, if_pos hcode, getLast?_cons_or]
      · rw [if_neg hcode, if_neg hcode]
    next hinvalid =>
      obtain ⟨text, -, h⟩ := bind_eq_ok_iff.mp h
      obtain ⟨⟨rest, w'⟩, hrest, h⟩ := bind_eq_ok_iff.mp h
      cases h
      rw [levelsFor_cons_of_invalid hinvalid]
      exact ih ⟨w', hrest⟩

theorem hasText_text (text : String) : (Value.text text).HasText :=
  (Value.exists_plain_iff _).mp ⟨text, rfl⟩

/-- Only texts name a severity. -/
theorem hasText_of_severity? {v : Value} {level : Severity} (h : severity? v = some level) :
    v.HasText := by
  cases v with
  | text s => exact hasText_text s
  | _ => cases h

/-- All items can be read if all have texts. -/
theorem exists_mapM_plain_iff {items : List Value} :
    (∃ names, items.mapM Value.plain = .ok names) ↔ ∀ item ∈ items, item.HasText := by
  rw [exists_mapM_eq_ok_iff]
  exact forall₂_congr fun item _ => item.exists_plain_iff

/-- Listings can be read exactly if their levels have a text, and so do the names in those that
are valid. -/
theorem exists_readOverrides_iff {s : Settings} {listings : List (Value × Value)} :
    (∃ result, readOverrides s listings = .ok result) ↔
      ∀ e ∈ listings, e.1.HasText ∧ ∀ level items, severity? e.1 = some level →
        e.2.items? = some items → ∀ item ∈ items, item.HasText := by
  induction listings generalizing s with
  | nil => exact iff_of_true ⟨_, rfl⟩ (List.forall_mem_nil _)
  | cons e listings ih =>
    obtain ⟨key, codes⟩ := e
    rw [readOverrides, List.forall_mem_cons]
    split
    next level items hlevel hitems =>
      have hvalid : (∀ level' items', severity? key = some level' → codes.items? = some items' →
          ∀ item ∈ items', item.HasText) ↔ ∀ item ∈ items, item.HasText := by
        refine ⟨fun h => h level items hlevel hitems, ?_⟩
        rintro h level' items' - hitems'
        obtain rfl : items = items' := Option.some.inj (hitems.symm.trans hitems')
        exact h
      rw [and_iff_right (hasText_of_severity? hlevel), hvalid, ← exists_mapM_plain_iff]
      exact exists_bind_iff_and fun names => ih
    next hinvalid =>
      have hnothing : ∀ level items, severity? key = some level → codes.items? = some items →
          ∀ item ∈ items, item.HasText :=
        fun level items hlevel hitems => absurd hitems (hinvalid level items hlevel)
      rw [and_iff_left hnothing, ← Value.exists_plain_iff]
      exact exists_bind_iff_and fun text => exists_bind_pure_iff.trans ih

end Settings

end ContainerLint
