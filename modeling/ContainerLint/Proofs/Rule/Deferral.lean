/-
Instructions that are deferred.

An instruction may be deferred to the builds that start from the image, by a keyword in
front of it. Rules meet such an instruction twice on its line: as a whole, and then the
instruction that is deferred. A rule that looks at each instruction for itself finds
nothing in the whole, and in the deferred instruction what it finds in it anywhere. So to
defer some of the instructions of a build file changes nothing for these rules.

It changes nothing for reading either: what follows the keyword is read as it is without
it, or cannot be read for the same reason.
-/
import ContainerLint.Lint.Dockerfile
import ContainerLint.Proofs.Pragma.Targets
import ContainerLint.Proofs.Rule.Run
import ContainerLint.Proofs.Text.Stretch

namespace ContainerLint

open ContainerLint.Text

/-! ## Reading -/

/-- **A deferred instruction is read as it is without the keyword**, and if it cannot be
read, the reason is the same. -/
theorem Dockerfile.readInstruction_onBuild {text word rest : List Char}
    (h : cutWord text = some (word, rest)) (hword : upper (String.ofList word) ≠ "ONBUILD") :
    readInstruction ("ONBUILD ".toList ++ text) = (readInstruction text).map .onBuild := by
  have hletters : "ONBUILD".toList.all (!isBlank ·) = true := by decide
  have hspace : ∀ c ∈ (' ' :: text).head?, isBlank c = true := by
    rintro c ⟨⟩
    decide
  have hkeyword : cutWord ("ONBUILD".toList ++ ' ' :: text) =
      some ("ONBUILD".toList, trimLeft (' ' :: text)) :=
    cutWord_append (by decide) (fun c hc => by simpa using List.all_eq_true.mp hletters c hc) hspace
  have hfront : "ONBUILD ".toList ++ text = "ONBUILD".toList ++ ' ' :: text := rfl
  obtain ⟨rest', hinner, htrim⟩ := exists_cutWord_trim h
  have hblank : trim (trimLeft (' ' :: text)) = trim text := by
    rw [trim_trimLeft]
    rfl
  rw [hfront, readInstruction, hkeyword, readInstruction, h]
  dsimp only
  rw [if_pos (by decide), hblank, hinner]
  dsimp only
  rw [if_neg (by simpa using hword), if_neg (by simpa using hword), readPlain, readPlain, htrim]

/-! ## Pragmas -/

namespace Dockerfile

/-- The second entry is the first, or it is the first deferred, on the same line. -/
inductive MayDefer : Positioned → Positioned → Prop
  | same (e : Positioned) : MayDefer e e
  | deferred {i : Instruction} {line : Nat} {source source' : String} : i.isComment = false →
      (∀ inner, i ≠ .onBuild inner) → MayDefer ⟨i, line, source⟩ ⟨.onBuild i, line, source'⟩

end Dockerfile

namespace Pragmas

open Dockerfile

/-- For the file as a whole it makes no difference which line a pragma is for. -/
theorem fileLevel_applyBody (p : Pragmas) (target : Option Nat) (body : List Char) :
    p.fileLevel.applyBody Option.none body = (p.applyBody target body).fileLevel := by
  unfold applyBody
  dsimp only
  -- only a list for the next instruction looks at the line
  split
  · split <;> rfl
  · split
    · cases target with
      | none => rfl
      | some line =>
        dsimp only
        split <;> rfl
    · split
      · rfl
      · split <;> rfl

theorem fileLevel_foldl_applyBody (p : Pragmas) (target : Option Nat)
    (waiting : List (List Char)) :
    waiting.foldl (fun p body => p.applyBody Option.none body) p.fileLevel =
      (waiting.foldl (fun p body => p.applyBody target body) p).fileLevel :=
  List.foldl_hom fileLevel fun p body => fileLevel_applyBody p target body

/-- An instruction takes the pragmas that wait, whatever it is. -/
theorem exists_readEntry_of_instruction {e : Positioned} (h : e.instruction.isComment = false)
    (p : Pragmas) (waiting : List (List Char)) :
    ∃ p', readEntry (p, waiting) e = (p', []) ∧
      p'.fileLevel = waiting.foldl (fun p body => p.applyBody Option.none body) p.fileLevel := by
  rw [fileLevel_foldl_applyBody p (some e.line)]
  unfold readEntry
  dsimp only
  split
  next text htext =>
    rw [htext] at h
    cases h
  next => split <;> exact ⟨_, rfl, rfl⟩

/-- What is known of the file as a whole stays the same from entry to entry. -/
theorem exists_readEntry_of_mayDefer {e e' : Positioned} (he : MayDefer e e') {p q : Pragmas}
    (h : p.fileLevel = q.fileLevel) (waiting : List (List Char)) :
    ∃ p' q' waiting', readEntry (p, waiting) e = (p', waiting') ∧
      readEntry (q, waiting) e' = (q', waiting') ∧ p'.fileLevel = q'.fileLevel := by
  have hinstruction : e.instruction.isComment = false → e'.instruction.isComment = false →
      ∃ p' q' waiting', readEntry (p, waiting) e = (p', waiting') ∧
        readEntry (q, waiting) e' = (q', waiting') ∧ p'.fileLevel = q'.fileLevel := by
    intro hcomment hcomment'
    obtain ⟨p', hp, hfile⟩ := exists_readEntry_of_instruction hcomment p waiting
    obtain ⟨q', hq, hfile'⟩ := exists_readEntry_of_instruction hcomment' q waiting
    exact ⟨p', q', [], hp, hq, by rw [hfile, hfile', h]⟩
  cases he with
  | deferred hcomment _ => exact hinstruction hcomment rfl
  | same =>
    by_cases hcomment : e.instruction.isComment = true
    · obtain ⟨text, htext⟩ := isComment_iff.mp hcomment
      exact ⟨p, q, _, readEntry_of_comment htext, readEntry_of_comment htext, h⟩
    · exact hinstruction (Bool.eq_false_iff.mpr hcomment) (Bool.eq_false_iff.mpr hcomment)

/-- Comments for the file say the same, whichever instructions are put off. -/
theorem exists_foldl_readEntry_of_mayDefer {entries entries' : List Positioned}
    (hentries : List.Forall₂ MayDefer entries entries') {p q : Pragmas}
    (h : p.fileLevel = q.fileLevel) (waiting : List (List Char)) :
    ∃ p' q' waiting', entries.foldl readEntry (p, waiting) = (p', waiting') ∧
      entries'.foldl readEntry (q, waiting) = (q', waiting') ∧ p'.fileLevel = q'.fileLevel := by
  -- the same pragmas wait on both sides, but single lines may have different codes
  induction hentries generalizing p q waiting with
  | nil => exact ⟨p, q, waiting, rfl, rfl, h⟩
  | cons he _ ih =>
    obtain ⟨p', q', waiting', hp, hq, hfile⟩ := exists_readEntry_of_mayDefer he h waiting
    rw [List.foldl_cons, List.foldl_cons, hp, hq]
    exact ih hfile waiting'

/-- **Deferred instructions leave the pragmas of the file as they are**, apart from those on
single lines. -/
theorem fileLevel_ofDockerfile_of_mayDefer {entries entries' : List Positioned}
    (h : List.Forall₂ MayDefer entries entries') :
    (ofDockerfile entries).fileLevel = (ofDockerfile entries').fileLevel := by
  obtain ⟨p, q, waiting, hp, hq, hfile⟩ :=
    exists_foldl_readEntry_of_mayDefer h (rfl : Pragmas.none.fileLevel = _) []
  unfold ofDockerfile
  rw [hp, hq]
  dsimp only
  rw [← fileLevel_foldl_applyBody, ← fileLevel_foldl_applyBody, hfile]

end Pragmas

/-! ## Rules without memory -/

namespace Checker

variable {Node : Type}

/-- What a checker without memory notes at a node. -/
def noteUnless (holds : Node → Bool) (e : Nat × Node) : List Note :=
  if holds e.2 then [] else [⟨e.1, none, none⟩]

/-- A rule with no memory notes the nodes of which its condition does not hold. -/
theorem passes_ofCondition (holds : Node → Bool) (nodes : List (Nat × Node)) :
    (ofCondition holds).Passes () nodes (nodes.map (noteUnless holds)) () := by
  induction nodes with
  | nil => exact .nil ()
  | cons e nodes ih => exact .cons rfl ih

/-- A checker without memory notes at each node what it notes there alone. -/
theorem exists_trace_ofCondition (holds : Node → Bool) (nodes : List (Nat × Node)) :
    ∃ t, (ofCondition holds).trace nodes = .ok t ∧ t.notes = nodes.flatMap (noteUnless holds) := by
  refine ⟨⟨nodes.map (noteUnless holds), []⟩,
    traceFrom_eq_ok_iff.mpr ⟨(), passes_ofCondition holds nodes, rfl⟩, ?_⟩
  rw [Trace.notes, List.append_nil, List.flatMap_def]

end Checker

namespace Dockerfile

/-- The condition holds of every instruction that defers another, seen as a whole. -/
def HoldsOfDeferring (holds : Node → Bool) : Prop :=
  ∀ inner, holds ⟨.onBuild inner, none⟩ = true

/-- A deferred instruction is met as a whole first, and then as it is. -/
theorem ofEntry_onBuild (posix : Bool) {i : Instruction} (hcomment : i.isComment = false)
    (hplain : ∀ inner, i ≠ .onBuild inner) (line : Nat) (source source' : String) :
    Node.ofEntry posix ⟨.onBuild i, line, source'⟩ =
      (line, ⟨.onBuild i, none⟩) :: Node.ofEntry posix ⟨i, line, source⟩ := by
  cases i with
  | comment => cases hcomment
  | onBuild inner => exact absurd rfl (hplain inner)
  | _ => rfl

/-- **Nothing more is noted, and nothing less**, where instructions are deferred. -/
theorem flatMap_noteUnless_of_mayDefer {holds : Node → Bool} (hholds : HoldsOfDeferring holds)
    (posix : Bool) {entries entries' : List Positioned}
    (h : List.Forall₂ MayDefer entries entries') :
    (Node.ofEntries posix entries').flatMap (Checker.noteUnless holds) =
      (Node.ofEntries posix entries).flatMap (Checker.noteUnless holds) := by
  unfold Node.ofEntries
  induction h with
  | nil => rfl
  | cons he _ ih =>
    rw [List.flatMap_cons, List.flatMap_cons, List.flatMap_append, List.flatMap_append, ih]
    cases he with
    | same => rfl
    | @deferred i line source source' hcomment hplain =>
      -- there is one node more, and nothing is noted at it
      have hwhole : Checker.noteUnless holds (line, ⟨.onBuild i, none⟩) = [] := if_pos (hholds i)
      rw [ofEntry_onBuild posix hcomment hplain line source, List.flatMap_cons, hwhole,
        List.nil_append]

/-! ## The rules -/

/-- The codes of the rules that look at each instruction for itself. -/
def statelessCodes : List String := [
  "DL3000", "DL3004", "DL3007", "DL3015", "DL3020", "DL3025", "DL3042", "DL3044", "DL3048", "DL4000"]

/-- The nodes that rules meet: scripts are read as the pragmas say, if the settings heed
them. -/
def nodesSeen (s : Settings) (entries : List Positioned) : List (Nat × Node) :=
  Node.ofEntries (s.heeded (Pragmas.ofDockerfile entries)).isPosix entries

/-- The rule notes the same, in the same order, if some instructions are deferred. -/
def SeesThroughDeferral (run : List (Nat × Node) → Option (Except Stop Trace)) : Prop :=
  ∀ s entries entries', List.Forall₂ MayDefer entries entries' →
    ∃ t t', run (nodesSeen s entries) = some (.ok t) ∧ run (nodesSeen s entries') = some (.ok t') ∧
      t'.notes = t.notes

/-- The shell is the same, whichever instructions are put off. -/
theorem isPosix_heeded_of_mayDefer (s : Settings) {entries entries' : List Positioned}
    (h : List.Forall₂ MayDefer entries entries') :
    (s.heeded (Pragmas.ofDockerfile entries')).isPosix =
      (s.heeded (Pragmas.ofDockerfile entries)).isPosix := by
  have hshell := congrArg Pragmas.isPosix (Pragmas.fileLevel_ofDockerfile_of_mayDefer h).symm
  unfold Settings.heeded
  split
  next => rfl
  next => exact hshell

/-- A rule with no memory sees through deferral if its condition does. -/
theorem seesThroughDeferral_ofCondition (holds : Node → Bool)
    (hholds : HoldsOfDeferring holds) :
    SeesThroughDeferral fun nodes => some ((Checker.ofCondition holds).trace nodes) := by
  intro s entries entries' h
  obtain ⟨t, ht, hnotes⟩ := Checker.exists_trace_ofCondition holds (nodesSeen s entries)
  obtain ⟨t', ht', hnotes'⟩ := Checker.exists_trace_ofCondition holds (nodesSeen s entries')
  refine ⟨t, t', congrArg some ht, congrArg some ht', ?_⟩
  rw [hnotes, hnotes', nodesSeen, nodesSeen, isPosix_heeded_of_mayDefer s h,
    flatMap_noteUnless_of_mayDefer hholds _ h]

/-- **Deferral is transparent.** The rules that look at each instruction for itself note the
same where instructions are deferred, and an instruction is read the same behind the
keyword. -/
theorem deferral_transparent (options : RuleOptions) :
    (∀ code ∈ statelessCodes, SeesThroughDeferral (Catalogue.bundled.run? code options)) ∧
    ∀ text word rest, cutWord text = some (word, rest) → upper (String.ofList word) ≠ "ONBUILD" →
      readInstruction ("ONBUILD ".toList ++ text) = (readInstruction text).map .onBuild := by
  refine ⟨?_, fun text word rest => readInstruction_onBuild⟩
  unfold statelessCodes
  simp only [List.forall_mem_cons, List.not_mem_nil, false_imp_iff, implies_true, and_true]
  exact ⟨seesThroughDeferral_ofCondition Node.hasAbsoluteWorkdir fun _ => rfl,
    seesThroughDeferral_ofCondition Node.avoidsSudo fun _ => rfl,
    seesThroughDeferral_ofCondition Node.avoidsLatest fun _ => rfl,
    seesThroughDeferral_ofCondition Node.avoidsRecommends fun _ => rfl,
    seesThroughDeferral_ofCondition Node.addsRemoteOrArchive fun _ => rfl,
    seesThroughDeferral_ofCondition Node.startsByExec fun _ => rfl,
    seesThroughDeferral_ofCondition Node.avoidsPipCache fun _ => rfl,
    seesThroughDeferral_ofCondition Node.avoidsSelfReference fun _ => rfl,
    seesThroughDeferral_ofCondition Node.hasValidLabels fun _ => rfl,
    seesThroughDeferral_ofCondition Node.avoidsMaintainer fun _ => rfl⟩

/-- A directory that is relative, and a maintainer. -/
def maintainerPlain : List Positioned := [
  ⟨.workdir "app", 1, "WORKDIR app"⟩, ⟨.maintainer "me", 2, "MAINTAINER me"⟩]

/-- The same, with the maintainer deferred. -/
def maintainerDeferred : List Positioned := [
  ⟨.workdir "app", 1, "WORKDIR app"⟩, ⟨.onBuild (.maintainer "me"), 2, "ONBUILD MAINTAINER me"⟩]

theorem deferral_transparent_maintainer :
    "DL4000" ∈ statelessCodes ∧ List.Forall₂ MayDefer maintainerPlain maintainerDeferred ∧
    (∃ t t', Catalogue.bundled.run? "DL4000" [] (nodesSeen {} maintainerPlain) = some (.ok t) ∧
      Catalogue.bundled.run? "DL4000" [] (nodesSeen {} maintainerDeferred) = some (.ok t') ∧
      t'.notes = t.notes) ∧
    cutWord "MAINTAINER me".toList = some ("MAINTAINER".toList, "me".toList) ∧
    readInstruction ("ONBUILD ".toList ++ "MAINTAINER me".toList) =
      (readInstruction "MAINTAINER me".toList).map .onBuild := by
  have hcode : "DL4000" ∈ statelessCodes := by decide
  have hentries : List.Forall₂ MayDefer maintainerPlain maintainerDeferred :=
    .cons (.same _) (.cons (.deferred rfl nofun) .nil)
  have hcut : cutWord "MAINTAINER me".toList = some ("MAINTAINER".toList, "me".toList) := rfl
  exact ⟨hcode, hentries, (deferral_transparent []).1 _ hcode {} _ _ hentries, hcut,
    (deferral_transparent []).2 _ _ _ hcut (by decide)⟩

end Dockerfile

end ContainerLint
