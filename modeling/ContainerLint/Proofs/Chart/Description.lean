/-
The comments that describe helpers.

The description of a helper is the comment that stands before its `define` with nothing but
text between them, if it is close enough. How close it is can be counted from the line that the
comment starts on, or from the line that it closes on. The first is what counts: a comment
describes the helper if it starts at most five lines before it. A comment that closes as near,
but starts further up, describes nothing. So the two ways of counting agree on a helper unless
its comment reaches over that distance, and they always agree on a comment of one line.
-/
import ContainerLint.Proofs.Chart.Helper
import ContainerLint.Proofs.Template.Closing

namespace ContainerLint.Chart

open ContainerLint.Template ContainerLint.Text

/-! ## The nearest comment -/

/-- Nothing but text stands between the place `k` and the place `i` after it. -/
structure IsNearest (tokens : List Token) (i k : Nat) : Prop where
  before : k < i
  texts : ∀ m, k < m → m < i → ∃ content line, tokens[m]? = some (.text content line)

/-- The nearest token before the place `i` that is no text is the one at the place `k`, and it
is a comment with the given content and first line. -/
def NearestComment (tokens : List Token) (i k : Nat) (content : String) (start : Nat) : Prop :=
  IsNearest tokens i k ∧ ∃ trimLeft trimRight,
    tokens[k]? = some (.comment content start trimLeft trimRight)

/-- The nearest token that is no text is a comment with the given content that starts at most
five lines before the line. -/
def StartsWithin (tokens : List Token) (i line : Nat) (content : String) : Prop :=
  ∃ k start, NearestComment tokens i k content start ∧ line ≤ start + 5

/-- The nearest token that is no text is a comment with the given content that closes at most
five lines before the line. -/
def ClosesWithin (tokens : List Token) (spans : List (List Char)) (i line : Nat)
    (content : String) : Prop :=
  ∃ k start n, NearestComment tokens i k content start ∧ ClosesOn spans k n ∧ line ≤ n + 5

section Nearest

variable {tokens : List Token} {i k line start : Nat} {content doc : String}

/-- Text between a comment and a helper does not matter. -/
theorem isNearest_succ_iff_of_text (ht : tokens[i]? = some (.text content line)) (hk : k ≠ i) :
    IsNearest tokens (i + 1) k ↔ IsNearest tokens i k := by
  constructor
  · rintro ⟨hbefore, htexts⟩
    exact ⟨by omega, fun m hkm hmi => htexts m hkm (by omega)⟩
  · rintro ⟨hbefore, htexts⟩
    refine ⟨by omega, fun m hkm hmi => ?_⟩
    by_cases hm : m = i
    · exact ⟨content, line, hm ▸ ht⟩
    · exact htexts m hkm (by omega)

/-- A text in between is passed over. -/
theorem nearestComment_succ_of_text (ht : tokens[i]? = some (.text content line)) :
    NearestComment tokens (i + 1) k doc start ↔ NearestComment tokens i k doc start := by
  by_cases hk : k = i
  · subst hk
    refine iff_of_false ?_ fun h => Nat.lt_irrefl k h.1.before
    rintro ⟨-, trimLeft, trimRight, hcomment⟩
    rw [ht] at hcomment
    cases hcomment
  · exact and_congr_left fun _ => isNearest_succ_iff_of_text ht hk

/-- What is no text is the nearest itself. -/
theorem nearestComment_succ_of_not_text {t : Token} (ht : tokens[i]? = some t)
    (hnot : ∀ content line, t ≠ .text content line) :
    NearestComment tokens (i + 1) k doc start ↔
      k = i ∧ ∃ trimLeft trimRight, t = .comment doc start trimLeft trimRight := by
  constructor
  · rintro ⟨⟨hbefore, htexts⟩, trimLeft, trimRight, hcomment⟩
    by_cases hk : k = i
    · rw [hk, ht] at hcomment
      exact ⟨hk, trimLeft, trimRight, Option.some.inj hcomment⟩
    · -- the token at the place would stand in between, and it is no text
      obtain ⟨content, line, htext⟩ := htexts i (by omega) (by omega)
      rw [ht] at htext
      exact absurd (Option.some.inj htext) (hnot content line)
  · rintro ⟨rfl, trimLeft, trimRight, rfl⟩
    exact ⟨⟨by omega, fun m hkm hmi => by omega⟩, trimLeft, trimRight, ht⟩

/-- No comment stands between the place and the nearest one. -/
theorem NearestComment.le {k' start' : Nat} {doc' : String}
    (h : NearestComment tokens i k doc start) (h' : NearestComment tokens i k' doc' start') :
    k' ≤ k := by
  obtain ⟨⟨-, htexts⟩, -⟩ := h
  obtain ⟨⟨hbefore, -⟩, trimLeft, trimRight, hcomment⟩ := h'
  by_contra hlt
  obtain ⟨content, line, htext⟩ := htexts k' (by omega) hbefore
  rw [hcomment] at htext
  cases htext

/-- There is one nearest comment at most. -/
theorem NearestComment.start_eq {k' start' : Nat} {doc' : String}
    (h : NearestComment tokens i k doc start) (h' : NearestComment tokens i k' doc' start') :
    start' = start := by
  obtain rfl : k' = k := Nat.le_antisymm (h.le h') (h'.le h)
  obtain ⟨-, trimLeft, trimRight, ht⟩ := h
  obtain ⟨-, trimLeft', trimRight', ht'⟩ := h'
  rw [ht] at ht'
  exact (Token.comment.inj (Option.some.inj ht')).2.1.symm

/-- **A helper is described by the nearest comment, if that starts within five lines.** The
induction goes back over the tokens before the helper, as the search does. -/
theorem descriptionBefore_eq_some_iff (hi : i ≤ tokens.length) :
    descriptionBefore line (tokens.take i).reverse = some doc ↔
      StartsWithin tokens i line doc := by
  induction i with
  | zero =>
    refine iff_of_false (by simp [descriptionBefore]) ?_
    rintro ⟨k, start, ⟨hnearest, -⟩, -⟩
    exact Nat.not_lt_zero k hnearest.before
  | succ i ih =>
    -- the token before decides, unless it is text
    have ht : tokens[i]? = some tokens[i] := List.getElem?_eq_getElem hi
    rw [List.take_add_one, ht, Option.toList_some, List.reverse_append, List.reverse_singleton,
      List.singleton_append, StartsWithin]
    cases hcase : tokens[i] with
    | text content first =>
      rw [hcase] at ht
      simp only [nearestComment_succ_of_text ht]
      exact ih (by omega)
    | action content first trimLeft trimRight =>
      rw [hcase] at ht
      simp only [nearestComment_succ_of_not_text ht (by simp)]
      simp [descriptionBefore]
    | comment content first trimLeft trimRight =>
      rw [hcase] at ht
      simp only [nearestComment_succ_of_not_text ht (by simp)]
      rw [descriptionBefore, descriptionWindow]
      by_cases hclose : line ≤ first + 5
      · rw [if_pos hclose]
        constructor
        · intro hdoc
          rw [← Option.some.inj hdoc]
          exact ⟨i, first, ⟨rfl, trimLeft, trimRight, rfl⟩, hclose⟩
        · rintro ⟨k, start, ⟨-, left, right, hcomment⟩, -⟩
          rw [(Token.comment.inj hcomment).1]
      · rw [if_neg hclose]
        refine iff_of_false (by simp) ?_
        rintro ⟨k, start, ⟨-, left, right, hcomment⟩, hstart⟩
        rw [← (Token.comment.inj hcomment).2.1] at hstart
        exact hclose hstart

end Nearest

/-! ## Descriptions of helpers -/

/-- What is known about the description of the helper of the `define` at a place. -/
structure IsDescribed (tokens : List Token) (spans : List (List Char)) (i : Nat) (h : Helper) :
    Prop where
  defined : IsDefinedAt tokens i h
  /-- The description is a comment that starts within five lines. -/
  description_iff : ∀ doc, h.description = some doc ↔ StartsWithin tokens i h.line doc
  /-- Then it closes within five lines as well. -/
  closesWithin : ∀ doc, h.description = some doc → ClosesWithin tokens spans i h.line doc
  /-- The description is the comment that closes within five lines exactly if there is none
  that does so and starts further up. -/
  agrees_iff : (∀ doc, h.description = some doc ↔ ClosesWithin tokens spans i h.line doc) ↔
    ∀ k doc start n, NearestComment tokens i k doc start → ClosesOn spans k n →
      h.line ≤ n + 5 → h.line ≤ start + 5

section Described

variable {text : String} {tokens : List Token} {spans : List (List Char)} {tail : List Char}
  {i line : Nat} {doc : String} {h : Helper}

/-- A comment closes on the line that it starts on, or further down. -/
theorem closesWithin_of_startsWithin (hspans : AreSpans text tokens spans tail)
    (hstarts : StartsWithin tokens i line doc) : ClosesWithin tokens spans i line doc := by
  obtain ⟨k, start, ⟨hnearest, trimLeft, trimRight, ht⟩, hline⟩ := hstarts
  have hcloses := (hspans.closesOn_iff ht).mpr rfl
  have hle := hspans.line_add_le ht hcloses
  exact ⟨k, start, _, ⟨hnearest, trimLeft, trimRight, ht⟩, hcloses, by omega⟩

/-- The description of a helper is the comment that is near enough. -/
theorem isDescribed_of_isMadeAt (hspans : AreSpans text tokens spans tail)
    (hmade : IsMadeAt tokens i h) : IsDescribed tokens spans i h := by
  obtain ⟨t, ht, hhelper⟩ := hmade
  obtain ⟨hdefine, hname, hline, -, hdescription⟩ := helperAt?_eq_some_iff.mp hhelper
  have hi : i < tokens.length := (List.getElem?_eq_some_iff.mp ht).1
  have hiff : ∀ doc, h.description = some doc ↔ StartsWithin tokens i h.line doc := by
    intro doc
    rw [hdescription, hline]
    exact descriptionBefore_eq_some_iff (Nat.le_of_lt hi)
  have hcloses : ∀ doc, h.description = some doc → ClosesWithin tokens spans i h.line doc :=
    fun doc hdoc => closesWithin_of_startsWithin hspans ((hiff doc).mp hdoc)
  refine ⟨⟨t, ht, hdefine, hname, hline⟩, hiff, hcloses, ?_, ?_⟩
  -- the two readings of the rule agree if no comment closes in time and starts too early
  · intro hagrees k doc start n hcomment hn hwithin
    have hdoc : h.description = some doc :=
      (hagrees doc).mpr ⟨k, start, n, hcomment, hn, hwithin⟩
    obtain ⟨k', start', hcomment', hstart⟩ := (hiff doc).mp hdoc
    rwa [hcomment.start_eq hcomment'] at hstart
  · intro hnone doc
    refine ⟨hcloses doc, ?_⟩
    rintro ⟨k, start, n, hcomment, hn, hwithin⟩
    exact (hiff doc).mpr ⟨k, start, hcomment, hnone k doc start n hcomment hn hwithin⟩

end Described

/-- **A helper is described by a comment that starts within five lines.** The helpers of a file
are those of its `define`s with a name, and each has the nearest comment before it as its
description, with nothing but text in between, if the comment starts at most five lines before
the `define`. This is the comment that closes at most five lines before it, unless the comment
starts further up than that. -/
theorem HelperFile.helpers_described (text path : String) :
    let f := HelperFile.ofText text path
    ∃ spans tail, AreSpans text f.template.tokens spans tail ∧
      ∃ places, ArePlaces (IsNamedDefine f.template.tokens) places ∧
        List.Forall₂ (IsDescribed f.template.tokens spans) places f.helpers := by
  intro f
  obtain ⟨spans, tail, hspans⟩ := exists_areSpans text path
  obtain ⟨places, hplaces, hmade⟩ := exists_arePlaces_helpersFrom f.template.tokens
  exact ⟨spans, tail, hspans, places, hplaces,
    hmade.imp fun i h => isDescribed_of_isMadeAt hspans⟩

/-- A comment of seven lines, a `define` on the line after it, and its `end`. -/
def longComment : String :=
  "\x7b\x7b/*\na\nb\nc\nd\ne\n*/\x7d\x7d\n\x7b\x7b define \"x\" \x7d\x7d\x7b\x7b end \x7d\x7d\n"

/-- The comment closes on the line before the `define`, and the helper has no description. -/
theorem HelperFile.longComment_describes_nothing :
    (HelperFile.ofText longComment "").helpers = [⟨"x", 8, "", none⟩] ∧
    ∃ spans tail, AreSpans longComment (HelperFile.ofText longComment "").template.tokens
        spans tail ∧ ClosesOn spans 0 7 ∧
      ClosesWithin (HelperFile.ofText longComment "").template.tokens spans 2 8
        "a\nb\nc\nd\ne" := by
  have htokens : (HelperFile.ofText longComment "").template.tokens =
      [.comment "a\nb\nc\nd\ne" 1 false false, .text "\n" 7,
        .action "define \"x\"" 8 false false, .action "end" 8 false false, .text "\n" 8] := by
    decide +kernel
  obtain ⟨spans, tail, hspans⟩ := exists_areSpans longComment ""
  have hcloses : ClosesOn spans 0 7 := (hspans.closesOn_iff_line rfl rfl).mpr rfl
  refine ⟨by decide +kernel, spans, tail, hspans, hcloses, 0, 1, 7, ?_, hcloses, by decide⟩
  rw [htokens]
  refine ⟨⟨by decide, fun m hpos hlt => ?_⟩, false, false, rfl⟩
  obtain rfl : m = 1 := by omega
  exact ⟨"\n", 7, rfl⟩

end ContainerLint.Chart
