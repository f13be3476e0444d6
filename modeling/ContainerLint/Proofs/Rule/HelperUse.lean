/-
Helpers that are never used.

A helper is used where a template refers to its name, or where its name occurs in the content
of another helper. To see what an action refers to, the rule asks whether the word `include`
or the word `template` occurs anywhere in the action, and takes the first quoted name in it.

The `define` of a helper is an action as well, with the name of the helper in quotes. It does
not use the helper, and is not taken for a use unless one of the two words occurs in it: in
the name itself, or elsewhere between the braces. A helper with such a `define` counts as used
by its own definition, and the rule never reports it.
-/
import ContainerLint.Proofs.Rule.Run
import ContainerLint.Proofs.Text.Order
import ContainerLint.Proofs.Text.Stretch

namespace ContainerLint.Template

open ContainerLint.Text

/-- The action defines the name. -/
def Defines (name content : String) : Prop :=
  Control.classify? content = some .define ∧ quotedName? content = some name

/-- One of the words that refer to a template occurs in the action. -/
def HasReferringWord (content : String) : Prop :=
  "include".toList <:+: content.toList ∨ "template".toList <:+: content.toList

instance (name content : String) : Decidable (Defines name content) :=
  inferInstanceAs (Decidable (_ ∧ _))

instance (content : String) : Decidable (HasReferringWord content) :=
  inferInstanceAs (Decidable (_ ∨ _))

theorem hasReferringWord_iff {content : String} :
    (contains content "include" || contains content "template") = true ↔
      HasReferringWord content := by
  rw [Bool.or_eq_true, contains_iff, contains_iff, HasReferringWord]

/-- The quoted name of an action occurs in it. -/
theorem infix_of_quotedName? {name content : String} (h : quotedName? content = some name) :
    name.toList <:+: content.toList := by
  obtain ⟨h, -⟩ := Option.filter_eq_some_iff.mp h
  unfold firstQuoted? at h
  split at h
  next front back hcut =>
    obtain ⟨⟨name', tail⟩, hname, rfl⟩ := Option.map_eq_some_iff.mp h
    rw [String.toList_ofList, append_of_cutAt hcut, append_of_cutAt hname]
    exact ( List.prefix_append _ _).isInfix.trans
      ((List.suffix_cons _ _).trans (List.suffix_append _ _)).isInfix
  next => cases h

/-- **What a template refers to** is what its actions with such a word quote. -/
theorem Document.mem_referencedNames_iff {d : Document} {name : String} :
    name ∈ d.referencedNames ↔
      ∃ content ∈ d.actions, HasReferringWord content ∧ quotedName? content = some name := by
  rw [Document.referencedNames, List.mem_eraseDups, List.mem_filterMap]
  refine exists_congr fun content => and_congr_right fun _ => ?_
  rw [Option.ite_none_right_eq_some, hasReferringWord_iff]

end ContainerLint.Template

namespace ContainerLint.Chart

open ContainerLint.Text ContainerLint.Template

variable {v : View} {f : HelperFile} {h : Helper}

/-- A name is used if an action that has one of the two words names it in quotes. -/
theorem View.mem_referencedNames_iff {name : String} : name ∈ v.referencedNames ↔
    ∃ t ∈ v.templates, ∃ content ∈ t.actions,
      HasReferringWord content ∧ quotedName? content = some name := by
  rw [View.referencedNames, mem_distinct_iff, List.mem_flatMap]
  exact exists_congr fun t => and_congr_right fun _ => Document.mem_referencedNames_iff

/-- A helper is mentioned if another one of its file has its name somewhere. -/
theorem mentioned_iff : mentioned f h = true ↔
    ∃ other ∈ f.helpers, other.name ≠ h.name ∧ h.name.toList <:+: other.content.toList := by
  rw [mentioned, List.any_eq_true]
  refine exists_congr fun other => and_congr_right fun _ => ?_
  rw [Bool.and_eq_true, bne_iff_ne, contains_iff]

/-- What the rule says of a helper that is never used. -/
def unusedFinding (f : HelperFile) (h : Helper) : Finding :=
  ⟨"Helper '" ++ h.name ++ "' is defined but never used", f.template.path, h.line⟩

/-- The rule looks at one helper after the other. -/
theorem unusedHelpers_eq (hf : v.helpers = some f) : unusedHelpers v =
    (f.helpers.filter fun h => !v.referencedNames.contains h.name && !mentioned f h).map
      (unusedFinding f) := by
  rw [unusedHelpers, inHelpers, hf]
  exact flatMap_findIf _ _ f.helpers

/-- What is said of a helper tells its name. -/
theorem name_eq_of_unusedFinding {h' : Helper} (hsame : unusedFinding f h' = unusedFinding f h) :
    h'.name = h.name := by
  have hmessage := congrArg (fun x : Finding => x.message.toList) hsame
  simp only [unusedFinding, String.toList_append] at hmessage
  exact String.toList_injective
    (List.append_cancel_left (List.append_cancel_right hmessage))

/-- **A helper is reported exactly if** no template refers to its name and no other helper
mentions it. -/
theorem unusedFinding_mem_iff (hf : v.helpers = some f) (hh : h ∈ f.helpers) :
    unusedFinding f h ∈ unusedHelpers v ↔ h.name ∉ v.referencedNames ∧ mentioned f h = false := by
  rw [unusedHelpers_eq hf, List.mem_map]
  constructor
  · rintro ⟨h', hh', hsame⟩
    have hname := name_eq_of_unusedFinding hsame
    have hunused := (List.mem_filter.mp hh').2
    rw [mentioned, hname] at hunused
    simpa [mentioned] using hunused
  · rintro ⟨hreferenced, hmentioned⟩
    exact ⟨h, List.mem_filter.mpr ⟨hh, by simp [hreferenced, hmentioned]⟩, rfl⟩

/-- The name of a helper occurs in no action of a template but those that define it, and in
the content of no other helper. -/
structure IsOnlyDefined (v : View) (f : HelperFile) (h : Helper) : Prop where
  actions : ∀ t ∈ v.templates, ∀ content ∈ t.actions,
    h.name.toList <:+: content.toList → Defines h.name content
  helpers : ∀ other ∈ f.helpers, other.name ≠ h.name →
    ¬h.name.toList <:+: other.content.toList

/-- Only its own definitions can be taken for uses of such a helper. -/
theorem IsOnlyDefined.mem_referencedNames_iff (honly : IsOnlyDefined v f h) :
    h.name ∈ v.referencedNames ↔ ∃ t ∈ v.templates, ∃ content ∈ t.actions,
      Defines h.name content ∧ HasReferringWord content := by
  rw [View.mem_referencedNames_iff]
  refine exists_congr fun t => and_congr_right fun ht => exists_congr fun content =>
    and_congr_right fun hcontent => ?_
  constructor
  · rintro ⟨hword, hname⟩
    exact ⟨honly.actions t ht content hcontent (infix_of_quotedName? hname), hword⟩
  · rintro ⟨hdefines, hword⟩
    exact ⟨hword, hdefines.2⟩

/-- What is only defined is not mentioned. -/
theorem IsOnlyDefined.mentioned_eq_false (honly : IsOnlyDefined v f h) :
    mentioned f h = false := by
  rw [← Bool.not_eq_true, mentioned_iff]
  rintro ⟨other, hother, hname, hoccurs⟩
  exact honly.helpers other hother hname hoccurs

/-- **A helper that is only defined is reported**, once its definitions have none of the words
`include` and `template` in them, and it is not reported if one of them has. -/
theorem onlyDefined_reported_iff (options : RuleOptions) (v : View) {f : HelperFile} {h : Helper}
    (hf : v.helpers = some f) (hh : h ∈ f.helpers) (honly : IsOnlyDefined v f h) :
    ∃ failures, Catalogue.bundled.inspect? "HL3010" options v = some (.ok failures) ∧
      ({ code := "HL3010", severity := .info
         message := "Helper '" ++ h.name ++ "' is defined but never used"
         file := f.template.path, line := h.line } ∈ failures ↔
        ∀ t ∈ v.templates, ∀ content ∈ t.actions, Defines h.name content →
          ¬HasReferringWord content) := by
  refine ⟨_, rfl, (mem_failuresOf_iff (x := unusedFinding f h)).trans ?_⟩
  rw [unusedFinding_mem_iff hf hh, and_iff_left honly.mentioned_eq_false,
    honly.mem_referencedNames_iff]
  simp only [not_exists, not_and]

/-- A file of helpers with one helper, of the given name. -/
def HelperFile.single (name : String) : HelperFile :=
  .ofText ("\n\x7b\x7b define \"" ++ name ++ "\" \x7d\x7dx\x7b\x7b end \x7d\x7d") "templates/_helpers.tpl"

/-- A chart whose only template is its file of helpers. -/
def View.ofHelpers (f : HelperFile) : View where
  metadata := none
  values := none
  templates := [f.template]
  helpers := some f
  files := [f.template.path]
  excluded := []

theorem onlyDefined_reported_plainName : ∃ h ∈ (HelperFile.single "a.b").helpers,
    IsOnlyDefined (.ofHelpers (.single "a.b")) (.single "a.b") h ∧
    ∃ failures,
      Catalogue.bundled.inspect? "HL3010" [] (.ofHelpers (.single "a.b")) = some (.ok failures) ∧
      { code := "HL3010", severity := .info, message := "Helper 'a.b' is defined but never used"
        file := "templates/_helpers.tpl", line := 2 } ∈ failures := by
  have hh : ⟨"a.b", 2, "x", none⟩ ∈ (HelperFile.single "a.b").helpers := by decide +kernel
  have honly : IsOnlyDefined (.ofHelpers (.single "a.b")) (.single "a.b") ⟨"a.b", 2, "x", none⟩ :=
    ⟨by decide +kernel, by decide +kernel⟩
  obtain ⟨failures, hrun, hreported⟩ := onlyDefined_reported_iff [] _ rfl hh honly
  exact ⟨_, hh, honly, failures, hrun, hreported.mpr (by decide +kernel)⟩

/-- The `define` of a helper whose name has one of the words in it is taken for a use. -/
theorem define_taken_for_use : ∃ h ∈ (HelperFile.single "a.template").helpers,
    IsOnlyDefined (.ofHelpers (.single "a.template")) (.single "a.template") h ∧
    Catalogue.bundled.inspect? "HL3010" [] (.ofHelpers (.single "a.template")) = some (.ok []) :=
  ⟨⟨"a.template", 2, "x", none⟩, by decide +kernel, ⟨by decide +kernel, by decide +kernel⟩,
    by decide +kernel⟩

end ContainerLint.Chart
