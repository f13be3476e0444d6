/-
Where the comments of a template close.

A token has the line that it starts on. A comment may go on over further lines, and the line
of its closing braces is kept nowhere; it is one more than the line feeds before them in the
text. Where another token follows, that is its line. The content of the comment has only some
of the line feeds between the two: those that stand next to the braces and the markers are
trimmed off with the other blanks there.
-/
import ContainerLint.Proofs.Template.Tiling
import ContainerLint.Proofs.Text.Stretch

namespace ContainerLint.Template

open ContainerLint.Text

/-- The spans of some tokens of a text, one after the other from its front on, and the rest of
the text, which is an action that never closes if it is anything. The line of a token is one
more than the line feeds before its span. -/
structure AreSpans (text : String) (tokens : List Token) (spans : List (List Char))
    (tail : List Char) : Prop where
  covers : text.toList = spans.flatten ++ tail
  length_eq : spans.length = tokens.length
  spans_at : ∀ (i : Nat) (t : Token) (span : List Char), tokens[i]? = some t →
    spans[i]? = some span → t.Spans span ((spans.drop (i + 1)).flatten ++ tail)
  line_at : ∀ (i : Nat) (t : Token), tokens[i]? = some t →
    t.line = 1 + countChar '\n' (spans.take i).flatten
  tail_eq : tail = [] ∨ ∃ back, tail = openBraces ++ back ∧ occursIn closeBraces back = false

/-- The span at the place ends in closing braces, and these stand on the line `n`. -/
def ClosesOn (spans : List (List Char)) (i n : Nat) : Prop :=
  ∃ inner, spans[i]? = some (inner ++ closeBraces) ∧
    n = 1 + countChar '\n' ((spans.take i).flatten ++ inner)

/-- The tokens of a template have spans. -/
theorem exists_areSpans (text path : String) :
    ∃ spans tail, AreSpans text (Document.ofText text path).tokens spans tail := by
  obtain ⟨spans, tail, hcovers, hlength, heach, hend⟩ := (tiling_scan 1 text.toList).spans
  refine ⟨spans, tail, hcovers, hlength, fun i t span ht hspan => (heach i t span ht hspan).1,
    fun i t ht => ?_, ?_⟩
  · have hi : i < spans.length := hlength ▸ (List.getElem?_eq_some_iff.mp ht).1
    exact (heach i t spans[i] ht (List.getElem?_eq_getElem hi)).2
  · rcases hend with ⟨htail, -⟩ | ⟨back, htail, hback, -⟩
    · exact .inl htail
    · exact .inr ⟨back, htail, hback⟩

/-- The line of the closing braces is one more than the line feeds up to the end of the span. -/
theorem ClosesOn.eq {spans : List (List Char)} {i n : Nat} (h : ClosesOn spans i n) :
    n = 1 + countChar '\n' (spans.take (i + 1)).flatten := by
  obtain ⟨inner, hspan, rfl⟩ := h
  rw [List.take_add_one, hspan, Option.toList_some, List.flatten_append, List.flatten_singleton]
  simp [countChar, closeBraces]

namespace AreSpans

variable {text : String} {tokens : List Token} {spans : List (List Char)} {tail : List Char}
  {i n start : Nat} {content : String} {trimLeft trimRight : Bool}

/-- Each token has a span. -/
theorem exists_span (h : AreSpans text tokens spans tail) {t : Token} (ht : tokens[i]? = some t) :
    ∃ span, spans[i]? = some span ∧ t.Spans span ((spans.drop (i + 1)).flatten ++ tail) := by
  have hi : i < spans.length := h.length_eq ▸ (List.getElem?_eq_some_iff.mp ht).1
  have hspan : spans[i]? = some spans[i] := List.getElem?_eq_getElem hi
  exact ⟨spans[i], hspan, h.spans_at i t spans[i] ht hspan⟩

/-- **A comment closes on the line that its span ends on.** -/
theorem closesOn_iff (h : AreSpans text tokens spans tail)
    (ht : tokens[i]? = some (.comment content start trimLeft trimRight)) :
    ClosesOn spans i n ↔ n = 1 + countChar '\n' (spans.take (i + 1)).flatten := by
  refine ⟨ClosesOn.eq, fun hn => ?_⟩
  obtain ⟨span, hspan, body, hbraced, -⟩ := h.exists_span ht
  rw [hbraced.written] at hspan
  have hcloses : ClosesOn spans i _ := ⟨_, hspan, rfl⟩
  rw [hn, ← hcloses.eq]
  exact hcloses

/-- **A comment closes on the line of the token after it**, where there is one. -/
theorem closesOn_iff_line (h : AreSpans text tokens spans tail)
    (ht : tokens[i]? = some (.comment content start trimLeft trimRight)) {next : Token}
    (hnext : tokens[i + 1]? = some next) : ClosesOn spans i n ↔ n = next.line := by
  rw [h.closesOn_iff ht, h.line_at (i + 1) next hnext]

/-- **The line feeds of a comment's content lie between its first line and its last.** -/
theorem line_add_le (h : AreSpans text tokens spans tail)
    (ht : tokens[i]? = some (.comment content start trimLeft trimRight))
    (hn : ClosesOn spans i n) : start + countChar '\n' content.toList ≤ n := by
  obtain ⟨span, hspan, body, hbraced, -, hcontent⟩ := h.exists_span ht
  have hstart : start = 1 + countChar '\n' (spans.take i).flatten := h.line_at i _ ht
  -- the content is a stretch of the body, and the body one of the span
  have hbody : body <:+: span := by
    rw [hbraced.written, List.append_assoc]
    exact List.infix_append _ body _
  have hinfix : content.toList <:+: span := by
    rw [hcontent]
    exact ((infix_trim _).trans (infix_dropEnds _ _)).trans ((infix_trim _).trans hbody)
  have hcount : countChar '\n' content.toList ≤ countChar '\n' span :=
    hinfix.sublist.count_le '\n'
  rw [hn.eq, List.take_add_one, hspan, Option.toList_some, List.flatten_append,
    List.flatten_singleton, hstart]
  simp only [countChar, List.count_append] at hcount ⊢
  omega

end AreSpans

end ContainerLint.Template
