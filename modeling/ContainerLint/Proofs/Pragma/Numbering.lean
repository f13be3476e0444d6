/-
Which lines the pragmas of a file of a chart speak about.

A comment that starts a line speaks about the line after it, and lines are those of
running text there. A comment of a template speaks about the line after its end, and lines
are counted by line feeds, as for all tokens. A line has one number in both ways of
counting if no break other than a line feed stands before it. So a comment that starts a
line speaks about the line that follows it among tokens, or about one further down by as
many lines as there are such breaks.
-/
import ContainerLint.Proofs.Pragma.Chart
import ContainerLint.Proofs.Text.Running

namespace ContainerLint.Pragmas

open ContainerLint.Text ContainerLint.Template

/-! ## What comments name -/

/-- The codes that a comment switches off on lines: those that it names, or all. -/
def commentTargets (comment : String) : List String :=
  match chartPragma? comment with
  | some (false, body) =>
    if (trim body).isEmpty then [wildcard]
    else (splitCodes (trim body)).filter (startsWith · "HL")
  | _ => []

/-- The codes that a line switches off on another, if it is a comment. -/
def lineTargets (line : List Char) : List String :=
  match trim line with
  | '#' :: comment => commentTargets (String.ofList comment)
  | _ => []

/-- A token of a template is a comment that switches a code off on a line: the one after its
end, or its own if it stands beside other text. -/
def TokenNames (lines : List (List Char)) (code : String) (m : Int) : Token → Prop
  | .comment content line _ _ =>
    let last := line + countChar '\n' content.toList
    code ∈ commentTargets content ∧
      (m = last + 1 ∨ standsBeside lines content line = true ∧ m = last)
  | _ => False

section LineTargets

variable {line : List Char}

/-- A line that is a comment has the codes the comment names. -/
theorem lineTargets_of_trim {comment : List Char} (h : trim line = '#' :: comment) :
    lineTargets line = commentTargets (String.ofList comment) := by
  rw [lineTargets, h]
  rfl

theorem lineTargets_of_not_comment (h : ∀ comment, trim line = '#' :: comment → False) :
    lineTargets line = [] := by
  unfold lineTargets
  split
  next comment hcomment => exact (h comment hcomment).elim
  next => rfl

theorem ne_nil_of_mem_lineTargets {code : String} (h : code ∈ lineTargets line) : line ≠ [] := by
  rintro rfl
  exact absurd h List.not_mem_nil

/-- A carriage return at the end of a line is a blank. -/
theorem lineTargets_concat_return (line : List Char) :
    lineTargets (line ++ ['\r']) = lineTargets line := by
  unfold lineTargets
  rw [trim_concat_of_blank (by decide)]

end LineTargets

/-! ## What is recorded for a line -/

section Recorded

variable {p : Pragmas} {code : String} {m : Int}

/-- A comment adds its codes to its line. -/
theorem mem_codesAt_ignoreLine {line : Int} {codes : List String} :
    code ∈ (p.ignoreLine line codes).codesAt m ↔
      code ∈ p.codesAt m ∨ m = line ∧ code ∈ codes :=
  mem_lookup_addLine

/-- A comment adds what it names for the line after it, and for its own if it stands beside
other text. -/
theorem mem_codesAt_applyComment {comment : String} {line : Nat} {beside : Bool} :
    code ∈ (p.applyComment comment line beside).codesAt m ↔
      code ∈ p.codesAt m ∨
        code ∈ commentTargets comment ∧ (m = line + 1 ∨ beside = true ∧ m = line) := by
  unfold applyComment commentTargets
  cases chartPragma? comment with
  | none => exact (or_iff_left fun h => absurd h.1 List.not_mem_nil).symm
  | some pragma =>
    obtain ⟨wholeFile, body⟩ := pragma
    cases wholeFile with
    | true =>
      -- what is said about the whole file is recorded for no line
      refine Iff.trans ?_ (or_iff_left fun h => absurd h.1 List.not_mem_nil).symm
      dsimp only
      rw [if_pos rfl]
      split <;> exact Iff.rfl
    | false =>
      dsimp only
      rw [if_neg Bool.false_ne_true]
      cases beside with
      | true =>
        rw [if_pos rfl, mem_codesAt_ignoreLine, mem_codesAt_ignoreLine]
        tauto
      | false =>
        rw [if_neg Bool.false_ne_true, mem_codesAt_ignoreLine]
        simp only [Bool.false_eq_true, false_and, or_false]
        tauto

/-- The step from one line to the next. -/
theorem exists_readLines_cons (p : Pragmas) (k : Nat) (text : List Char)
    (lines : List (List Char)) :
    ∃ q : Pragmas, p.readLines k (text :: lines) = q.readLines (k + 1) lines ∧
      ∀ code (m : Int), code ∈ q.codesAt m ↔
        code ∈ p.codesAt m ∨ code ∈ lineTargets text ∧ m = k + 1 := by
  refine ⟨_, rfl, fun code m => ?_⟩
  split
  next comment hcomment =>
    rw [mem_codesAt_applyComment, lineTargets_of_trim hcomment]
    simp only [Bool.false_eq_true, false_and, or_false]
  next hother =>
    rw [lineTargets_of_not_comment hother]
    exact (or_iff_left fun h => absurd h.1 List.not_mem_nil).symm

/-- Each line that is a comment adds what it names for the line after it. -/
theorem mem_codesAt_readLines {k : Nat} {lines : List (List Char)} :
    code ∈ (p.readLines k lines).codesAt m ↔
      code ∈ p.codesAt m ∨ ∃ (i : Nat) (line : List Char), lines[i]? = some line ∧
        code ∈ lineTargets line ∧ m = k + i + 1 := by
  induction lines generalizing p k with
  | nil =>
    refine (or_iff_left ?_).symm
    rintro ⟨i, line, hline, -⟩
    rw [List.getElem?_nil] at hline
    cases hline
  | cons text lines ih =>
    obtain ⟨q, hq, hcodes⟩ := exists_readLines_cons p k text lines
    rw [hq, ih, hcodes, or_assoc]
    refine or_congr_right ⟨?_, ?_⟩
    · rintro (⟨hcode, rfl⟩ | ⟨i, line, hline, hcode, rfl⟩)
      · exact ⟨0, text, rfl, hcode, by omega⟩
      · exact ⟨i + 1, line, hline, hcode, by omega⟩
    · rintro ⟨i, line, hline, hcode, rfl⟩
      cases i with
      | zero =>
        obtain rfl : text = line := Option.some.inj hline
        exact .inl ⟨hcode, by omega⟩
      | succ i => exact .inr ⟨i, line, hline, hcode, by omega⟩

/-- Each comment of a template adds what it names for the line after its end, and for its
own if it stands beside other text. -/
theorem mem_codesAt_readTokens {lines : List (List Char)} {tokens : List Token} :
    code ∈ (p.readTokens lines tokens).codesAt m ↔
      code ∈ p.codesAt m ∨ ∃ t ∈ tokens, TokenNames lines code m t := by
  unfold readTokens
  induction tokens generalizing p with
  | nil =>
    refine (or_iff_left ?_).symm
    rintro ⟨t, ht, -⟩
    cases ht
  | cons t tokens ih =>
    rw [List.foldl_cons, ih, List.exists_mem_cons_iff, ← or_assoc]
    refine or_congr_left ?_
    cases t with
    | text | action => exact (or_iff_left id).symm
    | comment content line trimLeft trimRight => exact mem_codesAt_applyComment

end Recorded

/-! ## Numbers of lines -/

/-- A comment that starts a line of the text names a code for a line: the one after it, as
line feeds are counted, or one that is further down by the other breaks before it. -/
def LineNames (text code : String) (m : Int) : Prop :=
  ∃ front line, IsLine text.toList front line ∧ code ∈ lineTargets line ∧
    m = (1 + countChar '\n' front : Nat) + 1 + strayBreaks front

/-- A comment that starts a line between line feeds names a code for the line after it. -/
def NextLineNames (text code : String) (m : Int) : Prop :=
  ∃ (n : Nat) (line : List Char), (splitAtChar '\n' text.toList)[n]? = some line ∧
    code ∈ lineTargets line ∧ m = (n + 1) + 1

/-- A comment of the template names a code for a line. -/
def CommentNames (text code : String) (m : Int) : Prop :=
  ∃ t ∈ (Document.ofText text "").tokens, TokenNames (runningLines text.toList) code m t

section Numbers

variable {text code : String} {m : Int}

/-- The comment on a line names codes for the next. -/
theorem lineNames_iff_getElem? :
    LineNames text code m ↔ ∃ (i : Nat) (line : List Char),
      (runningLines text.toList)[i]? = some line ∧ code ∈ lineTargets line ∧ m = 1 + i + 1 := by
  constructor
  · rintro ⟨front, line, hline, hcode, rfl⟩
    refine ⟨breaks front, line, hline.getElem?_breaks, hcode, ?_⟩
    rw [breaks]
    omega
  · rintro ⟨i, line, hline, hcode, rfl⟩
    have hne := ne_nil_of_mem_lineTargets hcode
    obtain ⟨front, hfront, rfl⟩ := (getElem?_runningLines_iff hne).mp hline
    refine ⟨front, line, hfront, hcode, ?_⟩
    rw [breaks]
    omega

/-- **What the pragmas of a text switch off on a line** is what its comments name for it. -/
theorem mem_codesAt_ofChartText :
    code ∈ (ofChartText text).codesAt m ↔ LineNames text code m ∨ CommentNames text code m := by
  rw [← ofTokens_document text "", ofTokens, mem_codesAt_readTokens, mem_codesAt_readLines,
    lineNames_iff_getElem?]
  refine or_congr_left (or_iff_right ?_)
  exact List.not_mem_nil

/-- A code is covered if it is named, or the wildcard is. -/
theorem covers_codesAt_ofChartText :
    covers ((ofChartText text).codesAt m) code = true ↔
      ∃ named, (named = code ∨ named = wildcard) ∧
        (LineNames text named m ∨ CommentNames text named m) := by
  rw [covers_iff, mem_codesAt_ofChartText, mem_codesAt_ofChartText]
  simp only [or_and_right, exists_or, exists_eq_left]

/-- Beyond the last line no code is named. -/
theorem mem_lineTargets_getD_iff {lines : List (List Char)} {n : Nat} :
    code ∈ lineTargets (lines.getD n []) ↔
      ∃ line, lines[n]? = some line ∧ code ∈ lineTargets line := by
  rw [List.getD_eq_getElem?_getD]
  cases lines[n]? with
  | none =>
    refine ⟨fun h => absurd h List.not_mem_nil, ?_⟩
    rintro ⟨line, hline, -⟩
    cases hline
  | some line => exact ⟨fun h => ⟨line, rfl, h⟩, fun ⟨_, hline, h⟩ => Option.some.inj hline ▸ h⟩

/-- **Without other breaks a comment that starts a line names codes for the next line**, as
line feeds are counted. -/
theorem lineNames_iff_nextLineNames (h : strayBreaks text.toList = 0) :
    LineNames text code m ↔ NextLineNames text code m := by
  have htargets : ∀ n, lineTargets ((splitAtChar '\n' text.toList).getD n []) =
      lineTargets ((runningLines text.toList).getD n []) := by
    intro n
    rcases getD_splitAtChar_newline h n with hsame | hreturn
    · rw [hsame]
    · rw [hreturn, lineTargets_concat_return]
  -- with blanks at their ends off, the lines are the same one by one
  rw [lineNames_iff_getElem?]
  refine exists_congr fun n => ?_
  simp only [← and_assoc, exists_and_right, ← mem_lineTargets_getD_iff, htargets]
  refine and_congr_right fun _ => ?_
  omega

end Numbers

end ContainerLint.Pragmas
