/-
Two tools for downloads.

The rule on downloads keeps two lists of lines, of the commands that use the one tool and
of those that use the other. If neither list is empty, every line of both is reported at
the end. No command that uses a tool is lost in this way, and none is reported that uses
neither; but a command that uses both tools is in both lists, and is reported twice.
-/
import ContainerLint.Proofs.Rule.Stage
import Mathlib.Data.Multiset.Filter

namespace ContainerLint.Dockerfile

/-! ## Commands -/

/-- The script of a command. -/
def Instruction.script? : Instruction → Option Shell.Script
  | .run arguments _ => some (Shell.Script.ofText arguments.asText)
  | _ => none

/-- The scripts of a build file with their lines, those of deferred commands included. -/
def scriptsOf (entries : List Positioned) : List (Nat × Shell.Script) :=
  entries.flatMap fun e => e.instruction.nodes.filterMap fun i => i.script?.map (e.line, ·)

/-- The scripts that nodes have, with their lines. -/
def scriptsIn (nodes : List (Nat × Node)) : List (Nat × Shell.Script) :=
  nodes.filterMap fun e => e.2.script.map (e.1, ·)

theorem scriptsIn_concat (nodes : List (Nat × Node)) (line : Nat) (n : Node) :
    scriptsIn (nodes ++ [(line, n)]) = scriptsIn nodes ++ (n.script.map (line, ·)).toList := by
  unfold scriptsIn
  rw [List.filterMap_append]
  cases hn : n.script <;> simp [hn]

/-- The scripts of an entry, if the shell is one that is understood. -/
theorem scriptsIn_ofEntry (posix : Bool) (e : Positioned) : scriptsIn (Node.ofEntry posix e) =
    if posix then e.instruction.nodes.filterMap fun i => i.script?.map (e.line, ·) else [] := by
  obtain ⟨instruction, line, source⟩ := e
  cases instruction with
  | onBuild inner => cases inner <;> cases posix <;> rfl
  | _ => cases posix <;> rfl

/-- Scripts are seen where the shell is a common one. -/
theorem scriptsIn_ofEntries (posix : Bool) (entries : List Positioned) :
    scriptsIn (Node.ofEntries posix entries) = if posix then scriptsOf entries else [] := by
  have hentries : scriptsIn (Node.ofEntries posix entries) =
      entries.flatMap fun e => scriptsIn (Node.ofEntry posix e) := List.filterMap_flatMap
  rw [hentries]
  simp only [scriptsIn_ofEntry]
  cases posix with
  | true => rfl
  | false => exact List.flatMap_eq_nil_iff.mpr fun _ _ => rfl

/-! ## The two lists -/

/-- The lines of the scripts that use a tool. -/
def linesUsing (program : String) (scripts : List (Nat × Shell.Script)) : List Nat :=
  (scripts.filter fun e => e.2.usesProgram program).map Prod.fst

/-- A script that uses the program adds its line. -/
theorem linesUsing_concat (program : String) (scripts : List (Nat × Shell.Script)) (line : Nat)
    (s : Shell.Script) : linesUsing program (scripts ++ [(line, s)]) =
      if s.usesProgram program then linesUsing program scripts ++ [line]
      else linesUsing program scripts := by
  unfold linesUsing
  rw [List.filter_append, List.map_append]
  cases hs : s.usesProgram program <;> simp [hs]

/-- There are lines if some script uses the program. -/
theorem isEmpty_linesUsing_eq_false_iff {program : String} {scripts : List (Nat × Shell.Script)} :
    (linesUsing program scripts).isEmpty = false ↔ ∃ e ∈ scripts, e.2.usesProgram program = true := by
  rw [linesUsing, List.isEmpty_map, List.isEmpty_eq_false_iff, ne_eq, List.filter_eq_nil_iff]
  simp only [not_forall, not_not, exists_prop]

/-- What is remembered, by the scripts so far. -/
structure AreDownloads (scripts : List (Nat × Shell.Script)) (d : Downloads) : Prop where
  wget : d.wget = linesUsing "wget" scripts
  curl : d.curl = linesUsing "curl" scripts

/-- The state goes on to know the lines of both programs. -/
theorem AreDownloads.step {past : List (Nat × Node)} {d : Downloads}
    (h : AreDownloads (scriptsIn past) d) (line : Nat) (n : Node) :
    AreDownloads (scriptsIn (past ++ [(line, n)])) (stepDownloads d line n).1 := by
  rw [scriptsIn_concat]
  unfold stepDownloads
  cases n.script with
  | none =>
    rw [Option.map_none, Option.toList_none, List.append_nil]
    exact h
  | some s =>
    rw [Option.map_some, Option.toList_some]
    exact ⟨by rw [linesUsing_concat, ← h.wget], by rw [linesUsing_concat, ← h.curl]⟩

theorem describes_oneDownloader :
    oneDownloader.Describes fun past d => AreDownloads (scriptsIn past) d where
  start := ⟨rfl, rfl⟩
  step {past d d' line n found} hd hstep := by
    have hnext := hd.step line n
    rwa [Except.ok.inj hstep] at hnext

/-- Downloads are only reported at the end. -/
theorem notes_of_trace_oneDownloader {nodes : List (Nat × Node)} {t : Trace}
    (h : oneDownloader.trace nodes = .ok t) :
    ∃ d, AreDownloads (scriptsIn nodes) d ∧ t.notes = oneDownloader.finish d := by
  obtain ⟨d, hpasses, hfinal⟩ := Checker.traceFrom_eq_ok_iff.mp h
  have hsteps : t.steps.flatten = [] := by
    refine hpasses.flatten_eq_nil fun d line n d' found hstep => ?_
    have hfound : (stepDownloads d line n).2 = [] := by
      unfold stepDownloads
      cases n.script <;> rfl
    rwa [Except.ok.inj hstep] at hfound
  refine ⟨d, describes_oneDownloader.passes describes_oneDownloader.start hpasses, ?_⟩
  rw [Trace.notes, hsteps, hfinal]
  rfl

/-! ## The rule -/

/-- Some command uses the one tool, and some command the other. -/
def MixesDownloaders (entries : List Positioned) : Prop :=
  (∃ e ∈ scriptsOf entries, e.2.usesProgram "wget" = true) ∧
    ∃ e ∈ scriptsOf entries, e.2.usesProgram "curl" = true

/-- One note for each command whose script has a property, on its line. -/
def notesOn (p : Shell.Script → Bool) (entries : List Positioned) : List Note :=
  ((scriptsOf entries).filter fun e => p e.2).map fun e => ⟨e.1, none, none⟩

/-- The lists have what is in either of them, and once more what is in both. -/
theorem notesOn_append_perm (p q : Shell.Script → Bool) (entries : List Positioned) :
    (notesOn p entries ++ notesOn q entries).Perm
      (notesOn (fun s => p s || q s) entries ++ notesOn (fun s => p s && q s) entries) := by
  unfold notesOn
  rw [← List.map_append, ← List.map_append]
  refine List.Perm.map _ (Multiset.coe_eq_coe.mp ?_)
  have hfilter := Multiset.filter_add_filter (fun e : Nat × Shell.Script => p e.2 = true)
    (fun e => q e.2 = true) (scriptsOf entries)
  simpa using hfilter

/-- The notes are on the lines of the scripts that use the program. -/
theorem flatMap_noteAt_linesUsing (program : String) (entries : List Positioned) :
    (linesUsing program (scriptsOf entries)).flatMap noteAt =
      notesOn (fun s => s.usesProgram program) entries := by
  rw [linesUsing, List.flatMap_map, notesOn, List.map_eq_flatMap]
  rfl

/-- **Downloads with two tools.** If scripts are read, and some command uses the one tool
and some command the other, then each command that uses either is reported on its line, and
each that uses both is reported once more. Nothing is reported in any other build file. -/
theorem downloads_reported (options : RuleOptions) (posix : Bool) (entries : List Positioned) :
    ∃ t, Catalogue.bundled.run? "DL4001" options (Node.ofEntries posix entries) = some (.ok t) ∧
      (posix = true ∧ MixesDownloaders entries → t.notes.Perm
        (notesOn (fun s => s.usesProgram "wget" || s.usesProgram "curl") entries ++
          notesOn (fun s => s.usesProgram "wget" && s.usesProgram "curl") entries)) ∧
      (¬ (posix = true ∧ MixesDownloaders entries) → t.notes = []) := by
  obtain ⟨t, ht⟩ := Checker.exists_trace_ofStep ⟨[], []⟩ stepDownloads oneDownloader.finish
    (Node.ofEntries posix entries)
  obtain ⟨⟨wget, curl⟩, ⟨rfl, rfl⟩, hnotes⟩ := notes_of_trace_oneDownloader ht
  rw [scriptsIn_ofEntries] at hnotes
  refine ⟨t, congrArg some ht, ?_, fun hother => ?_⟩
  · rintro ⟨rfl, hwget, hcurl⟩
    rw [← isEmpty_linesUsing_eq_false_iff] at hwget hcurl
    have hnotes : t.notes =
        (linesUsing "wget" (scriptsOf entries) ++ linesUsing "curl" (scriptsOf entries)).flatMap
          noteAt := hnotes.trans (if_neg (by simp [hwget, hcurl]))
    rw [hnotes, List.flatMap_append, flatMap_noteAt_linesUsing, flatMap_noteAt_linesUsing]
    exact notesOn_append_perm _ _ entries
  · refine hnotes.trans (if_pos ?_)
    cases posix with
    | false => rfl
    | true =>
      -- if neither list were empty, both tools would be in use
      by_contra hlists
      rw [Bool.not_eq_true, Bool.or_eq_false_iff] at hlists
      exact hother ⟨rfl, isEmpty_linesUsing_eq_false_iff.mp hlists.1,
        isEmpty_linesUsing_eq_false_iff.mp hlists.2⟩

/-- One command that uses both tools. -/
def bothTools : List Positioned := [
  ⟨.base (Image.ofReference "alpine:3.19" none none), 1, "FROM alpine:3.19"⟩,
  ⟨.run (.shell "wget a && curl b") {}, 2, "RUN wget a && curl b"⟩]

theorem downloads_reported_bothTools :
    MixesDownloaders bothTools ∧
      ∃ t, Catalogue.bundled.run? "DL4001" [] (Node.ofEntries true bothTools) = some (.ok t) ∧
        t.notes.Perm
          (notesOn (fun s => s.usesProgram "wget" || s.usesProgram "curl") bothTools ++
            notesOn (fun s => s.usesProgram "wget" && s.usesProgram "curl") bothTools) := by
  have hmixes : MixesDownloaders bothTools :=
    ⟨⟨_, List.mem_cons_self, rfl⟩, ⟨_, List.mem_cons_self, rfl⟩⟩
  obtain ⟨t, ht, hnotes, -⟩ := downloads_reported [] true bothTools
  exact ⟨hmixes, t, ht, hnotes ⟨rfl, hmixes⟩⟩

/-- The command is the only one, and is reported twice. -/
theorem command_reported_twice :
    MixesDownloaders bothTools ∧ (scriptsOf bothTools).length = 1 ∧
      Catalogue.bundled.run? "DL4001" [] (Node.ofEntries true bothTools) =
        some (.ok ⟨[[], []], [⟨2, none, none⟩, ⟨2, none, none⟩]⟩) := by
  refine ⟨⟨⟨_, List.mem_cons_self, rfl⟩, ⟨_, List.mem_cons_self, rfl⟩⟩, rfl, rfl⟩

end ContainerLint.Dockerfile
