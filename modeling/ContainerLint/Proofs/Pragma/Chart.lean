/-
What the pragmas of a file of a chart can hold.

Whatever comments a file has, its pragmas name each line once, and what they switch off
in the whole file are the codes of chart rules: a pragma for the whole file that names
nothing switches the file off, and of what else it names only such codes are kept. So
the sign for all codes can stand for a line, but never for a file.

A template is read with the tokens that its rules see, and any other file with tokens of
its own, if it has braces at all. That makes no difference, as a text without braces has
no comments of templates.
-/
import ContainerLint.Pragma.Chart
import ContainerLint.Proofs.Pragma.State
import ContainerLint.Proofs.Template.Tiling

namespace ContainerLint.Pragmas

open ContainerLint.Text ContainerLint.Template

/-! ## What comments leave behind -/

/-- Pragmas as comments of a chart make them. -/
structure OfChart (p : Pragmas) : Prop where
  distinct : Distinct p.lineCodes
  wildcard_not_mem : wildcard ∉ p.fileCodes

namespace OfChart

variable {p : Pragmas}

theorem none : OfChart Pragmas.none :=
  ⟨List.nodup_nil, List.not_mem_nil⟩

theorem ignoreLine (h : p.OfChart) (line : Int) (codes : List String) :
    (p.ignoreLine line codes).OfChart :=
  ⟨h.distinct.addLine, h.wildcard_not_mem⟩

/-- The wildcard would silence a whole chart, so no comment of a chart may name it for its file.
-/
theorem ignoreFile (h : p.OfChart) {codes : List String} (hcodes : wildcard ∉ codes) :
    (p.ignoreFile codes).OfChart :=
  ⟨h.distinct, fun hmem => (mem_union.mp hmem).elim h.wildcard_not_mem hcodes⟩

theorem disable (h : p.OfChart) : OfChart { p with disabled := true } :=
  ⟨h.distinct, h.wildcard_not_mem⟩

/-- The wildcard does not look like a code of a chart. -/
theorem wildcard_not_mem_chartCodes (codes : List String) :
    wildcard ∉ codes.filter (startsWith · "HL") := by
  intro hmem
  have hstarts : startsWith wildcard "HL" = true := (List.mem_filter.mp hmem).2
  exact absurd hstarts (by decide)

/-- One more comment leaves them comments of a chart. -/
theorem applyComment (h : p.OfChart) (comment : String) (line : Nat) (beside : Bool) :
    (p.applyComment comment line beside).OfChart := by
  unfold Pragmas.applyComment
  cases chartPragma? comment with
  | none => exact h
  | some pragma =>
    obtain ⟨wholeFile, body⟩ := pragma
    dsimp only
    split
    · split
      · exact h.disable
      · exact h.ignoreFile (wildcard_not_mem_chartCodes _)
    · split
      · exact (h.ignoreLine _ _).ignoreLine _ _
      · exact h.ignoreLine _ _

/-- So do the comments of many lines. -/
theorem readLines (h : p.OfChart) (line : Nat) (lines : List (List Char)) :
    (p.readLines line lines).OfChart := by
  induction lines generalizing p line with
  | nil => exact h
  | cons text lines ih =>
    unfold Pragmas.readLines
    refine ih ?_ (line + 1)
    split
    · exact h.applyComment _ line false
    · exact h

/-- So do those of a template. -/
theorem readTokens (h : p.OfChart) (lines : List (List Char)) (tokens : List Token) :
    (p.readTokens lines tokens).OfChart := by
  unfold Pragmas.readTokens
  induction tokens generalizing p with
  | nil => exact h
  | cons token tokens ih =>
    rw [List.foldl_cons]
    refine ih ?_
    cases token with
    | comment content line trimLeft trimRight => exact h.applyComment _ _ _
    | text | action => exact h

end OfChart

theorem ofChart_ofTokens (text : String) (tokens : List Token) : (ofTokens text tokens).OfChart :=
  (OfChart.none.readLines 1 _).readTokens _ tokens

/-- **The pragmas of a file of a chart** name each line once, and switch all codes off at
most for lines. -/
theorem ofChart_ofChartText (text : String) : (ofChartText text).OfChart :=
  ofChart_ofTokens text _

/-! ## Reading all files alike -/

theorem readTokens_textToken (p : Pragmas) (lines : List (List Char)) (collected : List Char)
    (start : Nat) : p.readTokens lines (textToken collected start) = p := by
  unfold textToken
  split <;> rfl

/-- **All files of a chart are read for pragmas in the same way**, templates by the tokens
that they have anyway. -/
theorem ofTokens_document (text path : String) :
    ofTokens text (Document.ofText text path).tokens = ofChartText text := by
  unfold ofChartText
  by_cases hbraces : contains text "\x7b\x7b" = true
  · rw [if_pos hbraces]
    rfl
  · rw [if_neg hbraces]
    have hnone : occursIn openBraces text.toList = false := Bool.eq_false_iff.mpr hbraces
    have htokens : (Document.ofText text path).tokens = textToken (text.toList.reverse ++ []) 1 :=
      congrArg Prod.fst (scan_of_not_occursIn (p := .text [] 1) hnone 1)
    unfold ofTokens
    rw [htokens, readTokens_textToken]
    rfl

end ContainerLint.Pragmas
