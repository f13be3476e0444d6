/-
The layout of a build file does not matter.

A blank line or a comment that is no pragma, put in front of an instruction or a comment,
moves all failures from there on down by a line and changes nothing else. The reader
moves the entries, the rules hand the new lines on, the pragmas are looked up by the new
lines, and the order of the failures is kept since that of the lines is. One rule is left
aside, the one that reports a missing health check: it speaks of the whole file and
always reports its first line, so that it does not move.
-/
import ContainerLint.Proofs.Lint.Containment
import ContainerLint.Proofs.Pragma.Dockerfile
import ContainerLint.Proofs.Rule.Layout

namespace ContainerLint

open ContainerLint.Dockerfile

/-! ## Failures on other lines -/

/-- The failure after one more line is put in front of line `k`. -/
def Failure.moveDown (k : Nat) (f : Failure) : Failure :=
  { f with line := lineAfterInsertion (k : Int) f.line }

namespace Failure

theorem orElse_lineAfterInsertion (k m n : Int) (rest : Bool) :
    orElse (lineAfterInsertion k m) (lineAfterInsertion k n) rest = orElse m n rest := by
  unfold orElse
  simp only [lineAfterInsertion_lt_iff, (injective_lineAfterInsertion k).eq_iff]

/-- Moving down keeps the order of failures. -/
theorem notAfter_moveDown (k : Nat) (a b : Failure) :
    (a.moveDown k).notAfter (b.moveDown k) = a.notAfter b := by
  unfold notAfter before moveDown
  dsimp only
  rw [orElse_lineAfterInsertion]

/-- Failures that are moved down stay in order. -/
theorem sorted_moveDown (k : Nat) (fs : List Failure) :
    sorted (fs.map (moveDown k)) = (sorted fs).map (moveDown k) :=
  (List.map_mergeSort fun a _ b _ => (notAfter_moveDown k a b).symm).symm

end Failure

/-- A note that moves down gives a failure that has moved down. -/
theorem RuleInfo.failure_mapLine (info : RuleInfo) (k : Nat) (path : String) (note : Note) :
    info.failure path (note.mapLine (lineAfterInsertion k)) =
      (info.failure path note).moveDown k := by
  simp only [failure, Note.mapLine, Failure.moveDown, cast_lineAfterInsertion]

/-! ## Nodes on other lines -/

namespace Dockerfile.Node

/-- Entries that move down give the same nodes on other lines. -/
theorem ofEntries_moveDown (posix : Bool) (k : Nat) (entries : List Positioned) :
    ofEntries posix (entries.map (Positioned.moveDown k)) =
      nodesOnLines (lineAfterInsertion k) (ofEntries posix entries) := by
  unfold ofEntries nodesOnLines
  rw [List.flatMap_map, List.map_flatMap]
  refine congrArg (List.flatMap · entries) (funext fun entry => ?_)
  unfold ofEntry Positioned.moveDown
  dsimp only
  split
  next => rfl
  next =>
    rw [List.map_map]
    rfl

/-- Comments have no nodes. -/
theorem ofEntries_silent (posix : Bool) {above new below : List Positioned}
    (hnew : ∀ p ∈ new, p.instruction.IsSilent) :
    ofEntries posix (above ++ new ++ below) = ofEntries posix (above ++ below) := by
  have hnone : ofEntries posix new = [] := by
    refine List.flatMap_eq_nil_iff.mpr fun p hp => ?_
    obtain ⟨text, htext, -⟩ := hnew p hp
    rw [ofEntry, htext]
    rfl
  unfold ofEntries at hnone ⊢
  rw [List.flatMap_append, List.flatMap_append, hnone, List.append_nil, List.flatMap_append]

end Dockerfile.Node

/-! ## The rules -/

/-- All bundled rules hand lines on, and compute with none. -/
theorem Catalogue.bundled_handLinesOn : ∀ r ∈ Catalogue.bundled.rules, r.check.HandsLinesOn := by
  intro r hr
  cases hcheck : r.check with
  | nodes run =>
    rw [← hcheck]
    exact Dockerfile.bundledRules_handLinesOn r
      (mem_dockerfile_bundledRules hr (by rw [hcheck]; rfl))
  | buildFile check => trivial
  | tokens run => trivial
  | chart check => trivial

/-- Only one rule looks at a Dockerfile as a whole. -/
theorem Dockerfile.code_of_buildFile : ∀ r ∈ bundledRules, ∀ check,
    r.check = .buildFile check → r.code = "DL3057" := by
  unfold bundledRules
  simp only [List.forall_mem_cons, List.not_mem_nil, false_imp_iff, implies_true, and_true,
    always, follow, reduceCtorEq]

/-- **Of the rules that see a build file as a whole there is one.** -/
theorem Catalogue.code_of_buildFile {r : Rule} (hr : r ∈ Catalogue.bundled.rules)
    {check : RuleInfo → RuleOptions → String → List Positioned → List Failure}
    (hcheck : r.check = .buildFile check) : r.code = "DL3057" :=
  Dockerfile.code_of_buildFile r (mem_dockerfile_bundledRules hr (by rw [hcheck]; rfl)) check hcheck

namespace Linter

variable {s : Settings}

/-- The rules on nodes make the same notes, on other lines. -/
theorem nodeRuns_onLines (f : Nat → Nat) (nodes : List (Nat × Node)) :
    (Linter.mk Catalogue.bundled s).nodeRuns (nodesOnLines f nodes) =
      ((Linter.mk Catalogue.bundled s).nodeRuns nodes).map fun run =>
        (run.1, run.2.map (Trace.mapLines f)) := by
  unfold nodeRuns
  rw [List.map_filterMap]
  refine List.filterMap_congr fun r hr => ?_
  have hlines := Catalogue.bundled_handLinesOn r hr
  cases hcheck : r.check with
  | nodes run =>
    rw [hcheck] at hlines
    dsimp only
    split
    next => exact congrArg (fun t => some (r.toRuleInfo, t)) (hlines f _ nodes)
    next => rfl
  | buildFile check => rfl
  | tokens run => rfl
  | chart check => rfl

/-- Lines do not decide which rule stops first. -/
theorem firstStop?_map (f : Nat → Nat) (runs : List (RuleInfo × Except Stop Trace)) :
    firstStop? (runs.map fun run => (run.1, run.2.map (Trace.mapLines f))) = firstStop? runs := by
  induction runs with
  | nil => rfl
  | cons run runs ih =>
    obtain ⟨info, stop | t⟩ := run
    · change firstStop? ((info, .error stop) :: _) = _
      rw [firstStop?, firstStop?, ih]
    · exact ih

/-- The failures of a run move down with its notes. -/
theorem runFailures_map (k : Nat) (path : String) (run : RuleInfo × Except Stop Trace) :
    runFailures path (run.1, run.2.map (Trace.mapLines (lineAfterInsertion k))) =
      (runFailures path run).map (Failure.moveDown k) := by
  obtain ⟨info, stop | t⟩ := run
  · rfl
  · simp only [Except.map, runFailures, Trace.notes_mapLines, List.map_map]
    exact List.map_congr_left fun note _ => info.failure_mapLine k path note

/-- **The rules find on other lines what they find.** -/
theorem nodeFailures_onLines (k : Nat) (path : String) (nodes : List (Nat × Node)) :
    (Linter.mk Catalogue.bundled s).nodeFailures path (nodesOnLines (lineAfterInsertion k) nodes) =
      ((Linter.mk Catalogue.bundled s).nodeFailures path nodes).map
        (List.map (Failure.moveDown k)) := by
  unfold nodeFailures
  dsimp only
  rw [nodeRuns_onLines, firstStop?_map]
  split
  next => rfl
  next =>
    refine congrArg Except.ok ?_
    rw [List.flatMap_map, List.map_flatMap]
    exact congrArg (List.flatMap · _) (funext fun run => runFailures_map k path run)

/-! ## What is reported -/

/-- What is reported does not hang on the line. -/
theorem reported?_moveDown (k : Nat) (f : Failure) :
    s.reported? (f.moveDown k) = (s.reported? f).map (Failure.moveDown k) := by
  simp only [Settings.reported?, apply_ite (Option.map (Failure.moveDown k))]
  rfl

theorem heeded_mapLines (f : Int → Int) (p : Pragmas) :
    s.heeded (p.mapLines f) = (s.heeded p).mapLines f := by
  unfold Settings.heeded
  split <;> rfl

/-- **What is reported moves with the failures and the pragmas.** -/
theorem reported_moveDown (l : Linter) (k : Nat) (p : Pragmas) (fs : List Failure) :
    l.reported (fun _ => p.mapLines (lineAfterInsertion (k : Int))) (fs.map (Failure.moveDown k)) =
      (l.reported (fun _ => p) fs).map (Failure.moveDown k) := by
  unfold reported
  rw [List.filterMap_map, List.map_filterMap]
  refine congrArg (List.filterMap · fs) (funext fun f => ?_)
  have hheeds : l.settings.heeds (p.mapLines (lineAfterInsertion (k : Int))) (f.moveDown k) =
      l.settings.heeds p f := by
    unfold Settings.heeds
    rw [show (p.mapLines (lineAfterInsertion (k : Int))).ignores (f.moveDown k).code
      (f.moveDown k).line = p.ignores f.code f.line from
        Pragmas.ignores_mapLines (injective_lineAfterInsertion k) p f.code f.line]
  rw [Function.comp, hheeds, reported?_moveDown]
  split <;> rfl

/-- The failures that move: all but that of a missing health check. -/
def movable (fs : List Failure) : List Failure :=
  fs.filter fun f => f.code != "DL3057"

/-- What may move still may after it has moved. -/
theorem movable_moveDown (k : Nat) (fs : List Failure) :
    movable (fs.map (Failure.moveDown k)) = (movable fs).map (Failure.moveDown k) := by
  unfold movable
  rw [List.filter_map]
  rfl

theorem code_of_mem_buildFileFailures {path : String} {entries : List Positioned} {f : Failure}
    (hf : f ∈ (Linter.mk Catalogue.bundled s).buildFileFailures path entries) :
    f.code = "DL3057" := by
  obtain ⟨r, hr, hf⟩ := List.mem_flatMap.mp hf
  split at hf
  next check hcheck =>
    split at hf
    next =>
      rw [Catalogue.bundled_reportsOwnCodes r hr f (.ofBuildFile hcheck hf)]
      exact Catalogue.code_of_buildFile hr hcheck
    next => cases hf
  next => cases hf

/-- The rule on whole files adds nothing that moves. -/
theorem movable_reported_append (pragmas : Failure → Pragmas) (found : List Failure)
    (path : String) (entries : List Positioned) :
    movable ((Linter.mk Catalogue.bundled s).reported pragmas
        (found ++ (Linter.mk Catalogue.bundled s).buildFileFailures path entries)) =
      movable ((Linter.mk Catalogue.bundled s).reported pragmas found) := by
  have hnone : movable ((Linter.mk Catalogue.bundled s).reported pragmas
      ((Linter.mk Catalogue.bundled s).buildFileFailures path entries)) = [] := by
    refine List.filter_eq_nil_iff.mpr fun f hf => ?_
    obtain ⟨f', hf', hreported⟩ := List.mem_filterMap.mp hf
    split at hreported
    next => cases hreported
    next =>
      rw [code_of_reported hreported, code_of_mem_buildFileFailures hf']
      decide
  unfold reported movable at *
  rw [List.filterMap_append, List.filter_append, hnone, List.append_nil]

/-- The failures that move are sorted as they are. -/
theorem movable_conclude (r : Report) (pragmas : Failure → Pragmas) (found : List Failure)
    (path : String) (entries : List Positioned) :
    movable ((Linter.mk Catalogue.bundled s).conclude r pragmas
        (found ++ (Linter.mk Catalogue.bundled s).buildFileFailures path entries)).failures =
      Failure.sorted (movable ((Linter.mk Catalogue.bundled s).reported pragmas found)) := by
  rw [← movable_reported_append pragmas found path entries]
  exact Failure.filter_sorted _ _

/-- **The failures on entries that are moved down**, with comments that say nothing put
between them, are the failures on the entries, moved down. -/
theorem lintEntries_moveDown {path : String} {above new below : List Positioned} (k : Nat)
    (hnew : ∀ p ∈ new, p.instruction.IsSilent) {r : Report}
    (hr : (Linter.mk Catalogue.bundled s).lintEntries path (above ++ below) = .ok r) :
    ∃ r', (Linter.mk Catalogue.bundled s).lintEntries path
          (above.map (Positioned.moveDown k) ++ new ++ below.map (Positioned.moveDown k)) = .ok r' ∧
        movable r'.failures = (movable r.failures).map (Failure.moveDown k) := by
  have hpragmas : s.heeded (Pragmas.ofDockerfile
        (above.map (Positioned.moveDown k) ++ new ++ below.map (Positioned.moveDown k))) =
      (s.heeded (Pragmas.ofDockerfile (above ++ below))).mapLines
        (lineAfterInsertion (k : Int)) := by
    rw [Pragmas.ofDockerfile_silent hnew, ← List.map_append, Pragmas.ofDockerfile_moveDown,
      heeded_mapLines]
  have hnodes : ∀ posix, Node.ofEntries posix
        (above.map (Positioned.moveDown k) ++ new ++ below.map (Positioned.moveDown k)) =
      nodesOnLines (lineAfterInsertion k) (Node.ofEntries posix (above ++ below)) := by
    intro posix
    rw [Node.ofEntries_silent posix hnew, ← List.map_append, Node.ofEntries_moveDown]
  by_cases hoff : (s.heeded (Pragmas.ofDockerfile (above ++ below))).disabled = true
  -- a pragma that switches the file off is kept by no line, so it is still there
  · rw [lintEntries_of_disabled hoff] at hr
    cases hr
    exact ⟨_, lintEntries_of_disabled (by rw [hpragmas]; exact hoff), rfl⟩
  · obtain ⟨found, hfound, rfl⟩ := (lintEntries_eq_ok_iff hoff).mp hr
    refine ⟨_, (lintEntries_eq_ok_iff (by rw [hpragmas]; exact hoff)).mpr
      ⟨found.map (Failure.moveDown k), ?_, rfl⟩, ?_⟩
    · rw [hpragmas, hnodes, nodeFailures_onLines]
      exact congrArg (Except.map _) hfound
    · rw [hpragmas, movable_conclude, movable_conclude, reported_moveDown, movable_moveDown,
        Failure.sorted_moveDown]

/-- A build file that makes a report without parse errors has been read. -/
theorem exists_parse_of_parseErrors {l : Linter} {text path : String} {r : Report}
    (hr : l.lintDockerfile text path = .ok r) (hclean : r.parseErrors = []) :
    ∃ entries, parse text = .ok entries ∧ l.lintEntries path entries = .ok r := by
  unfold lintDockerfile at hr
  split at hr
  next => cases hr
  next =>
    cases hr
    cases hclean
  next entries hparse => exact ⟨entries, hparse, mapError_eq_ok_iff.mp hr⟩

/-- **The layout of a build file does not matter.** Let a build file, without a byte order
mark in front, be linted without parse errors, and put a blank line or a comment that is
no pragma in front of the line where one of its instructions or comments starts. Then it
is linted without parse errors again, with the same failures in the same order, those at
or after that line a line further down. The failure of a missing health check, which is
about the whole file, is left aside. -/
theorem lintDockerfile_insertLine {s : Settings} {text text' path : String} {k : Nat}
    {line : List Char} {r : Report} (hmark : text.toList.head? ≠ some byteOrderMark)
    (hr : (Linter.mk Catalogue.bundled s).lintDockerfile text path = .ok r)
    (hclean : r.parseErrors = [])
    (hk : ∀ entries, parse text = .ok entries → ∃ p ∈ entries, p.line = k)
    (hline : IsFiller line) (hinsert : InsertsLine k line text text') :
    ∃ r', (Linter.mk Catalogue.bundled s).lintDockerfile text' path = .ok r' ∧
      r'.parseErrors = [] ∧
      r'.failures.filter (fun f => f.code != "DL3057") =
        (r.failures.filter fun f => f.code != "DL3057").map fun f =>
          { f with line := if (k : Int) ≤ f.line then f.line + 1 else f.line } := by
  obtain ⟨entries, hparse, hlint⟩ := exists_parse_of_parseErrors hr hclean
  obtain ⟨above, new, below, rfl, hnew, hparse'⟩ :=
    parse_insertLine hmark hinsert hline hparse (hk entries hparse)
  obtain ⟨r', hlint', hfailures⟩ := lintEntries_moveDown k hnew hlint
  refine ⟨r', ?_, parseErrors_of_lintEntries hlint', hfailures⟩
  unfold lintDockerfile
  rw [hparse']
  exact mapError_eq_ok_iff.mpr hlint'

/-- A comment between a pragma and its command: the pragma still holds, and the failure
further down moves. -/
theorem lintDockerfile_insertComment :
    ∃ r r',
      (Linter.mk .bundled {}).lintDockerfile
        "FROM debian\n# hadolint ignore=DL3004\nRUN sudo ls\nUSER root" "D" = .ok r ∧
      (Linter.mk .bundled {}).lintDockerfile
        "FROM debian\n# hadolint ignore=DL3004\n # why\nRUN sudo ls\nUSER root" "D" = .ok r' ∧
      ((r.failures.filter fun f => f.code != "DL3057").map fun f => (f.code, f.line)) =
        [("DL3006", 1), ("DL3002", 4)] ∧
      ((r'.failures.filter fun f => f.code != "DL3057").map fun f => (f.code, f.line)) =
        [("DL3006", 1), ("DL3002", 5)] := by
  have hreport : ((Linter.mk .bundled {}).lintDockerfile
      "FROM debian\n# hadolint ignore=DL3004\nRUN sudo ls\nUSER root" "D").map (fun r =>
        (r.parseErrors, (r.failures.filter fun f => f.code != "DL3057").map fun f =>
          (f.code, f.line))) = .ok ([], [("DL3006", 1), ("DL3002", 4)]) := by
    -- a merge sort does not evaluate in the kernel, an insertion sort does
    simp only [lintDockerfile, lintEntries, conclude, Report.sort, Failure.sorted_eq_insertionSort]
    decide +kernel
  obtain ⟨r, hr, hreport⟩ := map_eq_ok_iff.mp hreport
  obtain ⟨hclean, hfailures⟩ := Prod.mk.inj hreport
  have hinsert : InsertsLine 3 " # why".toList
      "FROM debian\n# hadolint ignore=DL3004\nRUN sudo ls\nUSER root"
      "FROM debian\n# hadolint ignore=DL3004\n # why\nRUN sudo ls\nUSER root" :=
    ⟨"FROM debian\n# hadolint ignore=DL3004\n".toList, "RUN sudo ls\nUSER root".toList, ['\n'],
      by decide +kernel, by decide +kernel,
      .inr ⟨"FROM debian\n# hadolint ignore=DL3004".toList, ['\n'], by decide +kernel, .inl rfl⟩,
      .inr ⟨"FROM debian\n# hadolint ignore=DL3004".toList, ['\n'], by decide +kernel, .inl rfl⟩,
      .inl rfl, by decide +kernel, by decide +kernel, by decide +kernel⟩
  have hlines : (parse "FROM debian\n# hadolint ignore=DL3004\nRUN sudo ls\nUSER root").map
      (List.map Positioned.line) = .ok [1, 2, 3, 4] := by decide +kernel
  obtain ⟨r', hr', -, hfailures'⟩ := lintDockerfile_insertLine (by decide +kernel) hr hclean
    (fun entries hentries => by
      rw [hentries] at hlines
      have hmem : 3 ∈ entries.map Positioned.line := by
        rw [Except.ok.inj hlines]
        decide
      exact List.mem_map.mp hmem)
    (.inr ⟨" why".toList, by decide +kernel, by decide +kernel⟩) hinsert
  refine ⟨r, r', hr, hr', hfailures, ?_⟩
  have hmoved := congrArg
    (List.map fun e : String × Int => (e.1, if 3 ≤ e.2 then e.2 + 1 else e.2)) hfailures
  rw [List.map_map] at hmoved
  rw [hfailures', List.map_map]
  exact hmoved

end Linter

end ContainerLint
