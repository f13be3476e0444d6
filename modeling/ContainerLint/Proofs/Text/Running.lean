/-
Two ways to count the lines of a text.

Running text has many characters that break lines: line feeds, carriage returns, form
feeds, separators of lines and of paragraphs. A template counts line feeds and nothing
else. Both ways give one number to a place in a text if no other break stands before it,
where a carriage return and the line feed after it are one break, and count as the line
feed. Otherwise they are apart by as many lines as there are other breaks before it.

`strayBreaks` is that difference. What is proved of it follows the recursion of
`runningLines`: a break begins a line with the text after it, and any other character is
put in front of the first line of the rest.
-/
import ContainerLint.Proofs.Text.Lines

namespace ContainerLint.Text

/-- The breaks of a text other than line feeds. A carriage return before a line feed
belongs to it. -/
def strayBreaks : List Char → Nat
  | [] => 0
  | '\r' :: '\n' :: cs => strayBreaks cs
  | c :: cs => if isLineBreak c && c != '\n' then strayBreaks cs + 1 else strayBreaks cs

/-- After `front` the text goes on with `line`, which is not empty, and stands between
breaks or the ends of the text. -/
structure IsLine (text front line : List Char) : Prop where
  ne_nil : line ≠ []
  starts : ∀ b ∈ front.getLast?, isLineBreak b = true
  unbroken : ∀ c ∈ line, isLineBreak c = false
  ends : ∃ back, text = front ++ line ++ back ∧ ∀ b ∈ back.head?, isLineBreak b = true

/-! ## One character more -/

section Cons

variable {c : Char} {cs : List Char}

theorem runningLines_crlf (cs : List Char) :
    runningLines ('\r' :: '\n' :: cs) = [] :: runningLines cs := rfl

theorem runningLines_cons_of_break (hcrlf : ∀ rest, c = '\r' → cs = '\n' :: rest → False)
    (hc : isLineBreak c = true) : runningLines (c :: cs) = [] :: runningLines cs := by
  rw [runningLines.eq_3 c cs hcrlf, if_pos hc]

theorem not_crlf_of_not_break (hc : isLineBreak c = false) :
    ∀ rest, c = '\r' → cs = '\n' :: rest → False := by
  rintro rest rfl -
  exact absurd hc (by decide)

theorem ne_newline_of_not_break (hc : isLineBreak c = false) : c ≠ '\n' := by
  rintro rfl
  exact absurd hc (by decide)

theorem headD_runningLines_of_break (hc : isLineBreak c = true) :
    (runningLines (c :: cs)).headD [] = [] := by
  by_cases hcrlf : ∃ rest, c = '\r' ∧ cs = '\n' :: rest
  · obtain ⟨rest, rfl, rfl⟩ := hcrlf
    rfl
  · rw [runningLines_cons_of_break (fun rest h h' => hcrlf ⟨rest, h, h'⟩) hc]
    rfl

/-- What is no break belongs to the first line. -/
theorem runningLines_cons_of_not_break (hc : isLineBreak c = false) :
    runningLines (c :: cs) =
      (c :: (runningLines cs).headD []) :: (runningLines cs).tail := by
  rw [runningLines.eq_3 c cs (not_crlf_of_not_break hc), hc, if_neg Bool.false_ne_true]
  cases runningLines cs with
  | nil => rfl
  | cons line lines => rfl

/-- The number of line feeds and other breaks in a text. -/
def breaks (cs : List Char) : Nat :=
  countChar '\n' cs + strayBreaks cs

theorem breaks_nil : breaks [] = 0 := rfl

/-- A return and a feed are one break. -/
theorem breaks_crlf (cs : List Char) : breaks ('\r' :: '\n' :: cs) = breaks cs + 1 := by
  have hfeeds : countChar '\n' ('\r' :: '\n' :: cs) = countChar '\n' cs + 1 := by
    simp [countChar]
  rw [breaks, hfeeds, strayBreaks, breaks]
  omega

theorem breaks_cons_of_break (hcrlf : ∀ rest, c = '\r' → cs = '\n' :: rest → False)
    (hc : isLineBreak c = true) : breaks (c :: cs) = breaks cs + 1 := by
  rw [breaks, strayBreaks.eq_3 c cs hcrlf, hc, Bool.true_and, countChar, List.count_cons, breaks,
    countChar]
  by_cases hfeed : c = '\n'
  · rw [if_pos (beq_iff_eq.mpr hfeed), if_neg (by simp [hfeed])]
    omega
  · rw [if_neg (by simp [hfeed]), if_pos (bne_iff_ne.mpr hfeed)]
    omega

/-- What is no break is not counted. -/
theorem breaks_cons_of_not_break (hc : isLineBreak c = false) :
    breaks (c :: cs) = breaks cs := by
  rw [breaks, strayBreaks.eq_3 c cs (not_crlf_of_not_break hc), hc, Bool.false_and,
    if_neg Bool.false_ne_true, countChar, List.count_cons_of_ne (ne_newline_of_not_break hc), breaks,
    countChar]

/-- A text is empty, or starts with one of the breaks or with another character. -/
theorem running_induction {motive : List Char → Prop} (nil : motive [])
    (crlf : ∀ cs, motive cs → motive ('\r' :: '\n' :: cs))
    (lineBreak : ∀ c cs, (∀ rest, c = '\r' → cs = '\n' :: rest → False) →
      isLineBreak c = true → motive cs → motive (c :: cs))
    (other : ∀ c cs, isLineBreak c = false → motive cs → motive (c :: cs)) (cs : List Char) :
    motive cs := by
  induction cs using runningLines.induct with
  | case1 => exact nil
  | case2 cs ih => exact crlf cs ih
  | case3 c cs hcrlf hc ih => exact lineBreak c cs hcrlf hc ih
  | case4 c cs _ hc _ ih => exact other c cs (Bool.eq_false_iff.mpr hc) ih
  | case5 c cs _ hc _ _ _ ih => exact other c cs (Bool.eq_false_iff.mpr hc) ih

/-- A text that ends with a break has one. -/
theorem breaks_ne_zero (hne : cs ≠ []) (hlast : ∀ b ∈ cs.getLast?, isLineBreak b = true) :
    breaks cs ≠ 0 := by
  induction cs using running_induction with
  | nil => exact absurd rfl hne
  | crlf cs ih => rw [breaks_crlf]; exact Nat.succ_ne_zero _
  | lineBreak c cs hcrlf hc ih => rw [breaks_cons_of_break hcrlf hc]; exact Nat.succ_ne_zero _
  | other c cs hc ih =>
    rw [breaks_cons_of_not_break hc]
    cases cs with
    | nil => simp [hc] at hlast
    | cons d cs =>
      refine ih (List.cons_ne_nil _ _) fun b hb => hlast b ?_
      rw [List.getLast?_cons_cons]
      exact hb

end Cons

/-! ## Lines and their numbers -/

section Lines

variable {text front line : List Char}

theorem IsLine.cons {c : Char} (h : IsLine text front line)
    (hc : front = [] → isLineBreak c = true) : IsLine (c :: text) (c :: front) line where
  ne_nil := h.ne_nil
  starts := by
    intro b hb
    rw [List.getLast?_cons] at hb
    obtain rfl := Option.some.inj hb
    cases hlast : front.getLast? with
    | none => exact hc (List.getLast?_eq_none_iff.mp hlast)
    | some d => exact h.starts d hlast
  unbroken := h.unbroken
  ends := by
    obtain ⟨back, rfl, hback⟩ := h.ends
    exact ⟨back, rfl, hback⟩

/-- A line that starts later is a line of the rest. -/
theorem IsLine.uncons {c : Char} (h : IsLine text (c :: front) line) :
    ∃ rest, text = c :: rest ∧ IsLine rest front line ∧ (front = [] → isLineBreak c = true) := by
  obtain ⟨back, rfl, hback⟩ := h.ends
  have hlast := h.starts
  rw [List.getLast?_cons] at hlast
  refine ⟨front ++ line ++ back, rfl, ⟨h.ne_nil, ?_, h.unbroken, back, rfl, hback⟩, ?_⟩
  · intro b hb
    rw [Option.mem_def.mp hb] at hlast
    exact hlast b rfl
  · rintro rfl
    exact hlast c rfl

/-- Where a break in front of a line is not followed by a line feed, it is not in the whole
text either. -/
theorem IsLine.not_crlf {c : Char} (h : IsLine text front line)
    (hfront : ∀ rest, c = '\r' → front = '\n' :: rest → False) :
    ∀ rest, c = '\r' → text = '\n' :: rest → False := by
  rintro rest hc rfl
  obtain ⟨back, htext, -⟩ := h.ends
  cases front with
  | cons d front =>
    rw [List.cons_append, List.cons_append, List.cons.injEq] at htext
    exact hfront front hc (by rw [← htext.1])
  | nil =>
    obtain ⟨d, line', rfl⟩ := List.exists_cons_of_ne_nil h.ne_nil
    rw [List.nil_append, List.cons_append, List.cons.injEq] at htext
    have hbreak := h.unbroken d List.mem_cons_self
    rw [← htext.1] at hbreak
    exact absurd hbreak (by decide)

/-- The first line goes up to the first break. -/
theorem head?_runningLines_append {line back : List Char} (hne : line ≠ [])
    (hline : ∀ c ∈ line, isLineBreak c = false) (hback : ∀ b ∈ back.head?, isLineBreak b = true) :
    (runningLines (line ++ back)).head? = some line := by
  induction line with
  | nil => exact absurd rfl hne
  | cons c line ih =>
    rw [List.forall_mem_cons] at hline
    rw [List.cons_append, runningLines_cons_of_not_break hline.1, List.head?_cons]
    by_cases hempty : line = []
    · subst hempty
      refine congrArg (fun rest => some (c :: rest)) ?_
      cases back with
      | nil => rfl
      | cons b back => exact headD_runningLines_of_break (hback b rfl)
    · rw [List.headD_eq_head?_getD, ih hempty hline.2]
      rfl

/-- What is left of a text after its first line starts with a break. -/
theorem exists_of_headD_runningLines (cs : List Char) :
    ∃ back, cs = (runningLines cs).headD [] ++ back ∧
      (∀ c ∈ (runningLines cs).headD [], isLineBreak c = false) ∧
      ∀ b ∈ back.head?, isLineBreak b = true := by
  induction cs with
  | nil =>
    refine ⟨[], rfl, fun _ hc => absurd hc List.not_mem_nil, fun b hb => ?_⟩
    exact absurd hb (Option.not_mem_none b)
  | cons c cs ih =>
    by_cases hc : isLineBreak c = true
    · rw [headD_runningLines_of_break hc]
      refine ⟨c :: cs, rfl, fun _ hd => absurd hd List.not_mem_nil, fun b hb => ?_⟩
      rw [← Option.some.inj hb]
      exact hc
    · have hc : isLineBreak c = false := Bool.eq_false_iff.mpr hc
      obtain ⟨back, hcs, hline, hback⟩ := ih
      rw [runningLines_cons_of_not_break hc, List.headD_cons]
      refine ⟨back, ?_, List.forall_mem_cons.mpr ⟨hc, hline⟩, hback⟩
      rw [List.cons_append, ← hcs]

/-- A line that is not empty is found behind as many breaks as its number says. -/
theorem exists_isLine_of_getElem? {i : Nat} (hne : line ≠ [])
    (h : (runningLines text)[i]? = some line) :
    ∃ front, IsLine text front line ∧ breaks front = i := by
  induction text using running_induction generalizing i with
  | nil => cases h
  | crlf cs ih =>
    cases i with
    | zero => exact absurd (Option.some.inj h).symm hne
    | succ i =>
      rw [runningLines_crlf, List.getElem?_cons_succ] at h
      obtain ⟨front, hfront, rfl⟩ := ih h
      refine ⟨'\r' :: '\n' :: front, ?_, breaks_crlf front⟩
      exact (hfront.cons fun _ => by decide).cons fun h => absurd h (List.cons_ne_nil _ _)
  | lineBreak c cs hcrlf hc ih =>
    rw [runningLines_cons_of_break hcrlf hc] at h
    cases i with
    | zero => exact absurd (Option.some.inj h).symm hne
    | succ i =>
      rw [List.getElem?_cons_succ] at h
      obtain ⟨front, hfront, rfl⟩ := ih h
      refine ⟨c :: front, hfront.cons fun _ => hc, breaks_cons_of_break ?_ hc⟩
      -- a line feed that comes next in `front` comes next in the text
      rintro rest hr rfl
      obtain ⟨back, rfl, -⟩ := hfront.ends
      exact hcrlf _ hr rfl
  | other c cs hc ih =>
    rw [runningLines_cons_of_not_break hc] at h
    cases i with
    | zero =>
      -- the line starts here and goes up to the first break
      obtain rfl := Option.some.inj h
      obtain ⟨back, hcs, hline, hback⟩ := exists_of_headD_runningLines cs
      refine ⟨[], ⟨hne, fun b hb => absurd hb (Option.not_mem_none b), ?_, back, ?_, hback⟩, rfl⟩
      · exact List.forall_mem_cons.mpr ⟨hc, hline⟩
      · rw [List.nil_append, List.cons_append, ← hcs]
    | succ i =>
      -- a later line is one of the text after the character
      rw [List.getElem?_cons_succ, List.getElem?_tail] at h
      obtain ⟨front, hfront, hi⟩ := ih h
      refine ⟨c :: front, hfront.cons ?_, (breaks_cons_of_not_break hc).trans hi⟩
      rintro rfl
      cases hi

/-- A line is numbered by the breaks before it. -/
theorem IsLine.getElem?_breaks (h : IsLine text front line) :
    (runningLines text)[breaks front]? = some line := by
  induction front using running_induction generalizing text with
  | nil =>
    obtain ⟨back, rfl, hback⟩ := h.ends
    rw [breaks_nil, ← List.head?_eq_getElem?]
    exact head?_runningLines_append h.ne_nil h.unbroken hback
  | crlf front ih =>
    obtain ⟨rest, rfl, h, -⟩ := h.uncons
    obtain ⟨rest, rfl, h, -⟩ := h.uncons
    rw [breaks_crlf, runningLines_crlf, List.getElem?_cons_succ]
    exact ih h
  | lineBreak c front hcrlf hc ih =>
    obtain ⟨rest, rfl, h, -⟩ := h.uncons
    rw [breaks_cons_of_break hcrlf hc, runningLines_cons_of_break (h.not_crlf hcrlf) hc,
      List.getElem?_cons_succ]
    exact ih h
  | other c front hc ih =>
    obtain ⟨rest, rfl, h, hbreak⟩ := h.uncons
    -- the break that `front` ends with is further on, so the line is not the first
    have hne : front ≠ [] := fun hempty => by simp [hbreak hempty] at hc
    obtain ⟨i, hi⟩ := Nat.exists_eq_add_one_of_ne_zero (breaks_ne_zero hne h.starts)
    have hline := ih h
    rw [hi] at hline
    rw [breaks_cons_of_not_break hc, runningLines_cons_of_not_break hc, hi,
      List.getElem?_cons_succ, List.getElem?_tail]
    exact hline

/-- **The number of a line in running text** is one more than the breaks before it, line
feeds and others. -/
theorem getElem?_runningLines_iff {i : Nat} (hne : line ≠ []) :
    (runningLines text)[i]? = some line ↔ ∃ front, IsLine text front line ∧ breaks front = i := by
  constructor
  · exact exists_isLine_of_getElem? hne
  · rintro ⟨front, h, rfl⟩
    exact h.getElem?_breaks

end Lines

/-! ## Texts without other breaks -/

section Feeds

variable {c : Char} {cs : List Char}

/-- A blank at the end of a line is nothing to its trimmed text. -/
theorem trim_concat_of_blank (hc : isBlank c = true) : trim (cs ++ [c]) = trim cs := by
  unfold trim dropEnds dropFront
  rw [List.dropWhile_append]
  split
  next hempty =>
    rw [List.isEmpty_iff.mp hempty, List.dropWhile_cons_of_pos hc]
    rfl
  next =>
    unfold dropBack
    rw [List.reverse_append, List.reverse_singleton, List.singleton_append,
      List.dropWhile_cons_of_pos hc]

theorem splitAtChar_newline_cons (cs : List Char) :
    splitAtChar '\n' ('\n' :: cs) = [] :: splitAtChar '\n' cs := rfl

theorem splitAtChar_cons_of_ne (hc : c ≠ '\n') :
    splitAtChar '\n' (c :: cs) =
      (c :: (splitAtChar '\n' cs).headD []) :: (splitAtChar '\n' cs).tail := by
  have hne := splitAtChar_ne_nil '\n' cs
  unfold splitAtChar at hne ⊢
  rw [splitBy, if_neg (by simpa using hc)]
  cases hpieces : splitBy (· == '\n') cs with
  | nil => exact absurd hpieces hne
  | cons piece pieces => rfl

/-- **Without other breaks, lines of running text are lines between line feeds**, less the
carriage return that one may end with. -/
theorem getD_splitAtChar_newline {text : List Char} (h : strayBreaks text = 0) (n : Nat) :
    (splitAtChar '\n' text).getD n [] = (runningLines text).getD n [] ∨
      (splitAtChar '\n' text).getD n [] = (runningLines text).getD n [] ++ ['\r'] := by
  induction text using running_induction generalizing n with
  | nil =>
    cases n with
    | zero => exact .inl rfl
    | succ n => exact .inl rfl
  | crlf cs ih =>
    -- the line that is cut at the feed keeps the return at its end
    have hsplit : splitAtChar '\n' ('\r' :: '\n' :: cs) = ['\r'] :: splitAtChar '\n' cs := by
      rw [splitAtChar_cons_of_ne (by decide), splitAtChar_newline_cons]
      rfl
    rw [hsplit, runningLines_crlf]
    cases n with
    | zero => exact .inr rfl
    | succ n => exact ih h n
  | lineBreak c cs hcrlf hc ih =>
    rw [strayBreaks.eq_3 c cs hcrlf, hc, Bool.true_and] at h
    by_cases hfeed : c = '\n'
    · subst hfeed
      rw [splitAtChar_newline_cons, runningLines_cons_of_break hcrlf hc]
      cases n with
      | zero => exact .inl rfl
      | succ n => exact ih h n
    · rw [if_pos (bne_iff_ne.mpr hfeed)] at h
      cases h
  | other c cs hc ih =>
    rw [strayBreaks.eq_3 c cs (not_crlf_of_not_break hc), hc, Bool.false_and,
      if_neg Bool.false_ne_true] at h
    rw [splitAtChar_cons_of_ne (ne_newline_of_not_break hc), runningLines_cons_of_not_break hc]
    cases n with
    | zero =>
      rw [List.getD_cons_zero, List.getD_cons_zero, List.headD_eq_getD, List.headD_eq_getD,
        List.cons_append, List.cons.injEq, List.cons.injEq]
      exact (ih h 0).imp (.intro rfl) (.intro rfl)
    | succ n =>
      have htail : ∀ lines : List (List Char), lines.tail.getD n [] = lines.getD (n + 1) [] := by
        intro lines
        rw [List.getD_eq_getElem?_getD, List.getElem?_tail, List.getD_eq_getElem?_getD]
      rw [List.getD_cons_succ, List.getD_cons_succ, htail, htail]
      exact ih h (n + 1)

end Feeds

end ContainerLint.Text
