/-
Comments of a template over several lines, and the lines they speak about.

A comment of a template speaks about the line after its end. Its end is found from the line it
starts on and the line feeds of its content. But the content has been trimmed: line feeds
between the markers of the comment and its words are no longer there. So the line that is
spoken about is the one after the closing braces, or as many lines further up as there are
such line feeds. That is the right line exactly if there are none, unless something else speaks
about it.
-/
import ContainerLint.Proofs.Pragma.Numbering
import ContainerLint.Proofs.Template.Closing

namespace ContainerLint.Pragmas

open ContainerLint.Text ContainerLint.Template

/-- A comment that starts a line names a code for a line, or a comment of the template does
that is not the token at the place. -/
def NamedElsewhere (text : String) (i : Nat) (code : String) (m : Int) : Prop :=
  LineNames text code m ∨ ∃ j t, j ≠ i ∧ (Document.ofText text "").tokens[j]? = some t ∧
    TokenNames (runningLines text.toList) code m t

section Comment

variable {text code content : String} {m : Int} {i start closing lost : Nat}
  {trimLeft trimRight : Bool}

/-- A code is off on a line by the comment at a place, or by another one. -/
theorem mem_codesAt_iff_tokenNames_or {t : Token}
    (ht : (Document.ofText text "").tokens[i]? = some t) :
    code ∈ (ofChartText text).codesAt m ↔
      TokenNames (runningLines text.toList) code m t ∨ NamedElsewhere text i code m := by
  rw [mem_codesAt_ofChartText, CommentNames, NamedElsewhere]
  constructor
  · rintro (hline | ⟨u, hu, hnames⟩)
    · exact .inr (.inl hline)
    · obtain ⟨j, hj⟩ := List.getElem?_of_mem hu
      by_cases hji : j = i
      · rw [hji, ht] at hj
        rw [Option.some.inj hj]
        exact .inl hnames
      · exact .inr (.inr ⟨j, u, hji, hj, hnames⟩)
  · rintro (hnames | hline | ⟨j, u, -, hj, hnames⟩)
    · exact .inr ⟨t, List.mem_of_getElem? ht, hnames⟩
    · exact .inl hline
    · exact .inr ⟨u, List.mem_of_getElem? hj, hnames⟩

/-- A comment names a code for the line after its closing braces exactly if all its line feeds
are in its content. The line that it stands on is never that line. -/
theorem tokenNames_comment_iff (hclosing : start + countChar '\n' content.toList + lost = closing)
    (hcode : code ∈ commentTargets content) :
    TokenNames (runningLines text.toList) code (closing + 1)
      (.comment content start trimLeft trimRight) ↔ lost = 0 := by
  rw [TokenNames, and_iff_right hcode]
  constructor
  · rintro (hnext | ⟨-, hown⟩) <;> omega
  · intro hlost
    left
    omega

/-- What a comment names is off on the line after its end, as far as its content shows it. -/
theorem mem_codesAt_of_comment
    (ht : (Document.ofText text "").tokens[i]? =
      some (.comment content start trimLeft trimRight))
    (hclosing : start + countChar '\n' content.toList + lost = closing)
    (hcode : code ∈ commentTargets content) :
    code ∈ (ofChartText text).codesAt (closing - lost + 1) := by
  rw [mem_codesAt_iff_tokenNames_or ht]
  refine .inl ⟨hcode, .inl ?_⟩
  omega

end Comment

/-- **A comment of a template speaks about the line after its closing braces, less the line
feeds that its content has lost.** However a file is read for pragmas, by its tokens or by
itself: a comment closes on a line that is at least its first line and the line feeds of its
content. What it names is off on the line after that. It is off on the line after the closing
braces exactly if no line feeds of the comment are missing in its content, or if another
comment names it for that line. -/
theorem codesAt_after_comment (text path : String) :
    ofTokens text (Document.ofText text path).tokens = ofChartText text ∧
    ∃ spans tail, AreSpans text (Document.ofText text path).tokens spans tail ∧
      ∀ (i : Nat) (content : String) (start : Nat) (trimLeft trimRight : Bool),
        (Document.ofText text path).tokens[i]? =
          some (.comment content start trimLeft trimRight) →
        ∃ closing lost : Nat, ClosesOn spans i closing ∧
          start + countChar '\n' content.toList + lost = closing ∧
          ∀ code ∈ commentTargets content,
            code ∈ (ofChartText text).codesAt (closing - lost + 1) ∧
            (code ∈ (ofChartText text).codesAt (closing + 1) ↔
              lost = 0 ∨ NamedElsewhere text i code (closing + 1)) := by
  obtain ⟨spans, tail, hspans⟩ := exists_areSpans text path
  refine ⟨ofTokens_document text path, spans, tail, hspans, ?_⟩
  intro i content start trimLeft trimRight ht
  have hcloses := (hspans.closesOn_iff ht).mpr rfl
  obtain ⟨lost, hlost⟩ := Nat.exists_eq_add_of_le (hspans.line_add_le ht hcloses)
  refine ⟨_, lost, hcloses, hlost.symm, fun code hcode => ⟨?_, ?_⟩⟩
  · exact mem_codesAt_of_comment ht hlost.symm hcode
  · rw [mem_codesAt_iff_tokenNames_or (t := .comment content start trimLeft trimRight) ht,
      tokenNames_comment_iff hlost.symm hcode]

/-- A comment on three lines, its words on the second, and what it is about on the line after
it. -/
def setOffComment : String :=
  "\x7b\x7b/*\nhelmlint-ignore HL4002\n*/\x7d\x7d\nprivileged: true\n"

/-- The comment closes on the third line, but what it names is off on the first two lines and
not on the fourth. -/
theorem codesAt_after_setOffComment :
    (∃ spans tail, AreSpans setOffComment (Document.ofText setOffComment "").tokens spans tail ∧
      (Document.ofText setOffComment "").tokens[0]? =
        some (.comment "helmlint-ignore HL4002" 1 false false) ∧ ClosesOn spans 0 3) ∧
    commentTargets "helmlint-ignore HL4002" = ["HL4002"] ∧
    (ofChartText setOffComment).lineCodes = [(2, ["HL4002"]), (1, ["HL4002"])] ∧
    (ofChartText setOffComment).ignores "HL4002" 4 = false := by
  obtain ⟨spans, tail, hspans⟩ := exists_areSpans setOffComment ""
  have htokens : (Document.ofText setOffComment "").tokens =
      [.comment "helmlint-ignore HL4002" 1 false false, .text "\nprivileged: true\n" 3] := by
    decide +kernel
  have hcomment : (Document.ofText setOffComment "").tokens[0]? =
      some (.comment "helmlint-ignore HL4002" 1 false false) := by rw [htokens]; rfl
  have hnext : (Document.ofText setOffComment "").tokens[1]? =
      some (.text "\nprivileged: true\n" 3) := by rw [htokens]; rfl
  refine ⟨⟨spans, tail, hspans, hcomment, ?_⟩, by decide +kernel, by decide +kernel,
    by decide +kernel⟩
  exact (hspans.closesOn_iff_line hcomment hnext).mpr rfl

end ContainerLint.Pragmas
