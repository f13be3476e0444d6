/-
Errors that leave the linting of a build file.

A build file that cannot be read makes a report of its own, with one parse error and no
failures. Two things are not turned into a report: a run of digits that is no number,
met by the reader or by the rule that looks stages up by number, and an option that the
rule for registries cannot search. If that option is a list or is not given, digits are
all that is left, and they need a text that has such digits.
-/
import ContainerLint.Proofs.Dockerfile.Containment
import ContainerLint.Proofs.Lint.Independence
import ContainerLint.Proofs.Rule.Ending

namespace ContainerLint

open ContainerLint.Text

/-! ## The rules that can stop -/

namespace Dockerfile

/-- Only digits that are no number stop the reading of a stage's index. -/
theorem indexOf?_eq_error {source : String} {e : RuleError} (h : indexOf? source = .error e) :
    source.toList ≠ [] ∧ (∀ c ∈ source.toList, isDigit c = true) ∧
      ∃ m, e = .numeral m ∧ readDecimal source.toList = .error m := by
  unfold indexOf? at h
  dsimp only at h
  split at h
  next hdigits =>
    simp only [Bool.and_eq_true, Bool.not_eq_true', List.isEmpty_eq_false_iff,
      List.all_eq_true] at hdigits
    split at h
    next => cases h
    next m hm =>
      cases h
      exact ⟨hdigits.1, hdigits.2, m, rfl, hm⟩
  next => cases h

/-- **A stage is not found by number only if its digits cannot be read.** The name is
looked up in lower case, but a text of digits is its own lower case. -/
theorem stepCopyFrom_eq_error {stages : List String} {line : Nat} {n : Node} {e : RuleError}
    (h : stepCopyFrom stages line n = .error e) :
    (∃ m, e = .numeral m) ∧ ¬ n.instruction.HasPlainOrigin := by
  unfold stepCopyFrom at h
  split at h
  next => cases h
  next sources destination flags hinstruction =>
    split at h
    next => cases h
    next origin horigin =>
      dsimp only at h
      cases hindex : indexOf? (lower origin) with
      | ok index =>
        rw [hindex] at h
        cases h
      | error e' =>
        rw [hindex] at h
        cases h
        obtain ⟨hne, hdigits, m, rfl, hread⟩ := indexOf?_eq_error hindex
        refine ⟨⟨m, rfl⟩, fun hplain => ?_⟩
        -- the digits that cannot be read are those of the origin as it is written
        have hlower : (lower origin).toList = origin.toList := by
          rw [lower, String.toList_ofList] at hdigits ⊢
          exact lowerFrom_of_digits hdigits
        rw [hlower] at hne hdigits hread
        rw [hinstruction] at hplain
        obtain ⟨k, hk⟩ := (hplain origin horigin).exists_readDecimal hne hdigits
        rw [hk] at hread
        cases hread
  next => cases h

/-- The option is not given, or is a list. -/
def IsAbsentOrList (option : Option Value) : Prop :=
  ∀ v, option = some v → ∃ items, v.bare = .list items

/-- The rule on registries does not stop, if it is given a list or nothing. -/
theorem stepTrusted_ne_error {trusted : Option Value} (h : IsAbsentOrList trusted)
    (stages : List String) (line : Nat) (n : Node) (e : RuleError) :
    stepTrusted (trusted.getD .null) stages line n ≠ .error e := by
  -- the option is searched only if it counts as true, and then it is given
  have hsearch : (trusted.getD .null).isTrue = true →
      ∀ registry, ∃ b, isTrusted registry (trusted.getD .null) = .ok b := by
    intro htrue registry
    cases trusted with
    | none => cases htrue
    | some v =>
      obtain ⟨items, hitems⟩ := h v rfl
      rw [Option.getD_some, isTrusted, hitems]
      exact ⟨_, rfl⟩
  unfold stepTrusted
  split
  next image himage =>
    split
    next => exact fun h => (nomatch h)
    next htrue =>
      split
      next => exact fun h => (nomatch h)
      next =>
        dsimp only
        obtain ⟨b, hb⟩ := hsearch (by simpa using htrue) _
        rw [hb]
        exact fun h => (nomatch h)
  next => exact fun h => (nomatch h)

/-- Nodes have the origins of the instructions they are made from. -/
theorem hasPlainOrigin_of_mem_ofEntries {posix : Bool} {entries : List Positioned}
    (h : ∀ p ∈ entries, p.instruction.HasPlainOrigin) {e : Nat × Node}
    (he : e ∈ Node.ofEntries posix entries) : e.2.instruction.HasPlainOrigin := by
  obtain ⟨p, hp, he⟩ := List.mem_flatMap.mp he
  specialize h p hp
  unfold Node.ofEntry at he
  split at he
  next => cases he
  next =>
    obtain ⟨i, hi, rfl⟩ := List.mem_map.mp he
    unfold Instruction.nodes at hi
    split at hi
    next inner hinner =>
      rw [hinner] at h
      rcases List.mem_cons.mp hi with rfl | hi
      · exact h
      · rw [List.mem_singleton.mp hi]
        exact h
    next => rwa [List.mem_singleton.mp hi]

end Dockerfile

/-! ## The linter -/

namespace Linter

open ContainerLint.Dockerfile

/-- The first stop is that of some rule. -/
theorem exists_of_firstStop?_eq_some {runs : List (RuleInfo × Except Stop Trace)} {stop : Stop}
    (h : firstStop? runs = some stop) : ∃ run ∈ runs, run.2 = .error stop := by
  induction runs with
  | nil => cases h
  | cons run runs ih =>
    have hrest : firstStop? runs = some stop → ∃ run' ∈ run :: runs, run'.2 = .error stop := by
      intro hstop
      obtain ⟨run', hrun', heq⟩ := ih hstop
      exact ⟨run', List.mem_cons_of_mem _ hrun', heq⟩
    obtain ⟨info, first | t⟩ := run
    · unfold firstStop? at h
      split at h
      next later hlater =>
        split at h
        next =>
          cases h
          exact hrest hlater
        next =>
          cases h
          exact ⟨_, List.mem_cons_self, rfl⟩
      next =>
        cases h
        exact ⟨_, List.mem_cons_self, rfl⟩
    · exact hrest h

/-- **The rules for build files stop at a run of digits that is no number and nowhere
else**, if the trusted registries can be searched. -/
theorem nodeFailures_eq_error {s : Settings}
    (htrusted : IsAbsentOrList (Value.find? (.text "trusted") (s.optionsOf "DL3026")))
    {path : String} {nodes : List (Nat × Node)} {e : RuleError}
    (h : (Linter.mk Catalogue.bundled s).nodeFailures path nodes = .error e) :
    (∃ m, e = .numeral m) ∧ ∃ n ∈ nodes, ¬ n.2.instruction.HasPlainOrigin := by
  unfold nodeFailures at h
  dsimp only at h
  split at h
  next stop hstop =>
    cases h
    obtain ⟨run, hrun, herror⟩ := exists_of_firstStop?_eq_some hstop
    obtain ⟨r, hr, hrun⟩ := List.mem_filterMap.mp hrun
    split at hrun
    next check hcheck =>
      split at hrun
      next =>
        cases hrun
        have hrule := Catalogue.mem_dockerfile_bundledRules hr (by rw [hcheck]; rfl)
        -- two rules may stop: that on stages, at a number, and that on registries, at its options
        cases Dockerfile.bundledRules_ending r hrule with
        | always halways =>
          rw [hcheck] at halways
          obtain ⟨t, ht⟩ := halways ((Linter.mk Catalogue.bundled s).optionsOf r) nodes
          rw [ht] at herror
          cases herror
        | stages hstages =>
          rw [hcheck] at hstages
          cases hstages
          obtain ⟨n, hn, u, hstep⟩ := Checker.exists_of_traceFrom_eq_error herror
          obtain ⟨hnumeral, hplain⟩ := stepCopyFrom_eq_error hstep
          exact ⟨hnumeral, n, hn, hplain⟩
        | registries hcode hregistries =>
          rw [hcheck] at hregistries
          cases hregistries
          obtain ⟨n, hn, u, hstep⟩ := Checker.exists_of_traceFrom_eq_error herror
          refine absurd hstep (stepTrusted_ne_error ?_ u n.1 n.2 _)
          rw [optionsOf, hcode]
          exact htrusted
      next => cases hrun
    next => cases hrun
  next => cases h

/-- What has been parsed has no errors of parsing. -/
theorem parseErrors_of_lintEntries {l : Linter} {path : String} {entries : List Positioned}
    {r : Report} (h : l.lintEntries path entries = .ok r) : r.parseErrors = [] := by
  by_cases hoff : (l.settings.heeded (Pragmas.ofDockerfile entries)).disabled = true
  · rw [lintEntries_of_disabled hoff] at h
    cases h
    rfl
  · obtain ⟨found, -, rfl⟩ := (lintEntries_eq_ok_iff hoff).mp h
    rfl

/-- A Dockerfile stops the linter only by one of its rules on nodes. -/
theorem nodeFailures_of_lintEntries_eq_error {l : Linter} {path : String}
    {entries : List Positioned} {e : RuleError} (h : l.lintEntries path entries = .error e) :
    ∃ posix, l.nodeFailures path (Node.ofEntries posix entries) = .error e := by
  by_cases hoff : (l.settings.heeded (Pragmas.ofDockerfile entries)).disabled = true
  · rw [lintEntries_of_disabled hoff] at h
    cases h
  · refine ⟨(l.settings.heeded (Pragmas.ofDockerfile entries)).isPosix, ?_⟩
    simp only [lintEntries] at h
    rw [if_neg hoff] at h
    cases hfound : l.nodeFailures path (Node.ofEntries _ entries) with
    | ok found =>
      rw [hfound] at h
      cases h
    | error e' =>
      rw [hfound] at h
      cases h
      rfl

/-- **Linting a build file ends with a report**, if the trusted registries are a list or
not given. A text that can be read makes no parse error; one that cannot makes one, at
the first line of a logical line, and no failures. All that can come of it otherwise is
a run of digits that is no number, and then some digit of the text is not decimal or too
many of them stand in a row. -/
theorem lintDockerfile_returns_or_meets_numeral (s : Settings) (text path : String)
    (htrusted : IsAbsentOrList (Value.find? (.text "trusted") (s.optionsOf "DL3026"))) :
    (∃ r, (Linter.mk Catalogue.bundled s).lintDockerfile text path = .ok r ∧
      ((∃ entries, parse text = .ok entries ∧ r.parseErrors = []) ∨
        ∃ fault line column, parse text = .error (.malformed fault line column) ∧
          StartsLogicalLine (physicalLines text) line ∧ r.failures = [] ∧
          r.parseErrors = [path ++ ": " ++ (ParseError.malformed fault line column).message])) ∨
    ((∃ n, (Linter.mk Catalogue.bundled s).lintDockerfile text path = .error (.numeral n) ∨
        (Linter.mk Catalogue.bundled s).lintDockerfile text path = .error (.rule (.numeral n))) ∧
      ((∃ c ∈ text.toList, isDigit c = true ∧ isDecimal c = false) ∨
        ∃ run, run <:+: text.toList ∧ (∀ c ∈ run, isDigit c = true) ∧ maxDigits < run.length)) := by
  rw [← not_hasPlainDigits_iff]
  unfold lintDockerfile
  cases hparse : parse text with
  | error e =>
    rcases parse_eq_error hparse with ⟨fault, line, column, rfl, hline⟩ | ⟨⟨n, rfl⟩, hdigits⟩
    · exact .inl ⟨_, rfl, .inr ⟨fault, line, column, rfl, hline, rfl, rfl⟩⟩
    · exact .inr ⟨⟨n, .inl rfl⟩, hdigits⟩
  | ok entries =>
    dsimp only
    cases hlint : (Linter.mk Catalogue.bundled s).lintEntries path entries with
    | ok r => exact .inl ⟨r, rfl, .inl ⟨entries, rfl, parseErrors_of_lintEntries hlint⟩⟩
    | error e =>
      -- it was a rule that stopped, at the origin of a copy whose digits are those of the text
      obtain ⟨posix, hfailures⟩ := nodeFailures_of_lintEntries_eq_error hlint
      obtain ⟨⟨n, rfl⟩, node, hnode, horigin⟩ := nodeFailures_eq_error htrusted hfailures
      refine .inr ⟨⟨n, .inr rfl⟩, fun hdigits => horigin ?_⟩
      exact hasPlainOrigin_of_mem_ofEntries (fun _ => hasPlainOrigin_of_parse hdigits hparse) hnode

theorem lintDockerfile_openHeredoc :
    let s : Settings :=
      { rules := [("DL3026", { options := [(.text "trusted", .list [.text "ghcr.io"])] })] }
    IsAbsentOrList (Value.find? (.text "trusted") (s.optionsOf "DL3026")) ∧
      ∃ r, (Linter.mk .bundled s).lintDockerfile "FROM debian:12\n\nRUN cat \\\n <<EOF\nls" "D" =
          .ok r ∧
        r.failures = [] ∧ r.parseErrors = ["D: line 3: unterminated heredoc 'EOF'"] ∧
        StartsLogicalLine (physicalLines "FROM debian:12\n\nRUN cat \\\n <<EOF\nls") 3 := by
  intro s
  have hlist : IsAbsentOrList (Value.find? (.text "trusted") (s.optionsOf "DL3026")) :=
    fun v hv => ⟨_, congrArg Value.bare (Option.some.inj hv).symm⟩
  have hparse : parse "FROM debian:12\n\nRUN cat \\\n <<EOF\nls" =
      .error (.malformed (.unterminatedHeredoc "EOF") 3 none) := by decide +kernel
  refine ⟨hlist, ?_⟩
  rcases lintDockerfile_returns_or_meets_numeral s _ "D" hlist with
    ⟨r, hr, ⟨entries, hentries, -⟩ | ⟨fault, line, column, herror, hline, hfailures, htold⟩⟩ |
    ⟨⟨n, hn⟩, -⟩
  · rw [hparse] at hentries
    cases hentries
  · rw [hparse] at herror
    cases herror
    exact ⟨r, hr, hfailures, htold, hline⟩
  · simp only [lintDockerfile, hparse] at hn
    rcases hn with hn | hn <;> cases hn

end Linter

end ContainerLint
