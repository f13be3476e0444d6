/-
How the tokens of a template lie in its text.

The scanner walks over the text one character at a time and keeps four things as it
goes: where it stands, what it has collected, the line it is on and the line that the
open piece started on. What is said here does not speak of these. Each token stands
for a *span* of the text; the spans follow one another without gaps from the front of
the text on, and the line of a token is one more than the line feeds before its span.

Only an action that never closes is in no span, and then it is the rest of the text,
from its opening braces on.

What the scanner does from two braces to the next two is one step (`scan_of_cut`): in
text it goes on to the first opening braces, in an action to the first closing ones. The
rest is an induction over the spans.
-/
import ContainerLint.Template.Document
import Mathlib.Data.List.Basic

namespace ContainerLint.Template

open ContainerLint.Text

/-! ## Spans -/

/-- The two characters that open an action. -/
def openBraces : List Char := ['{', '{']

/-- The two characters that close an action. -/
def closeBraces : List Char := ['}', '}']

/-- A trim marker, where there is one. -/
def trimMarker (present : Bool) : List Char :=
  if present then ['-'] else []

/-- An action as it is written: braces around a body, which trim markers may set off
from the braces. -/
structure IsBraced (trimLeft trimRight : Bool) (body span : List Char) : Prop where
  /-- Braces, markers and body are all there is. -/
  written : span =
    openBraces ++ trimMarker trimLeft ++ body ++ trimMarker trimRight ++ closeBraces
  /-- The first closing braces after the opening ones are those at the end. -/
  closed : cutAtPiece closeBraces (span.drop 2) =
    some (trimMarker trimLeft ++ body ++ trimMarker trimRight, [])
  /-- A dash after the opening braces is a marker if a blank follows it. -/
  marked_left : trimLeft = true ↔ ∃ c, isBlank c = true ∧ openBraces ++ ['-', c] <+: span
  /-- A dash before the closing braces is a marker if a blank precedes it, or if nothing
  stands between it and the opening braces or the marker there. -/
  marked_right : trimRight = true ↔ body ++ trimMarker trimRight = ['-'] ∨
    ∃ c cs, isBlank c = true ∧ body ++ trimMarker trimRight = cs ++ [c, '-']

/-- The token stands for a span of text that the given rest follows. Text goes up to the
first opening braces or to the end. -/
def Token.Spans : Token → List Char → List Char → Prop
  | .text content _, span, rest =>
    span = content.toList ∧ span ≠ [] ∧ occursIn openBraces span = false ∧
      (rest = [] ∨ ∃ back, cutAtPiece openBraces (span ++ rest) = some (span, back))
  | .action content _ trimLeft trimRight, span, _ =>
    ∃ body, IsBraced trimLeft trimRight body span ∧ opensComment body = false ∧
      content.toList = trim body
  | .comment content _ trimLeft trimRight, span, _ =>
    ∃ body, IsBraced trimLeft trimRight body span ∧ opensComment body = true ∧
      content.toList = trim (dropEnds (fun c => c == '/' || c == '*') (trim body))

/-- `Tiling line tokens unclosed cs`: the text `cs`, which starts on the given line, falls
into the spans of the tokens, and then ends or goes on with an action that never closes,
on the line `unclosed`. -/
inductive Tiling : Nat → List Token → Option Nat → List Char → Prop
  | done (line : Nat) : Tiling line [] none []
  | unclosed (line : Nat) {back : List Char} : occursIn closeBraces back = false →
      Tiling line [] (some line) (openBraces ++ back)
  | token {t : Token} {span rest : List Char} {tokens : List Token} {unclosed : Option Nat} :
      t.Spans span rest → Tiling (t.line + countChar '\n' span) tokens unclosed rest →
      Tiling t.line (t :: tokens) unclosed (span ++ rest)

/-! ## Cutting at braces -/

/-- What does not occur does not occur here nor later. -/
theorem occursIn_cons {piece : List Char} {c : Char} {cs : List Char}
    (h : occursIn piece (c :: cs) = false) :
    piece.isPrefixOf (c :: cs) = false ∧ occursIn piece cs = false := by
  unfold occursIn cutAtPiece at h
  by_cases hstart : piece.isPrefixOf (c :: cs) = true
  · rw [if_pos hstart] at h
    cases h
  · rw [if_neg hstart, Option.isSome_map] at h
    exact ⟨Bool.eq_false_iff.mpr hstart, h⟩

/-- The cut is later if the piece is not here. -/
theorem cutAtPiece_cons_later {piece : List Char} {c : Char} {cs front back : List Char}
    (hstart : piece.isPrefixOf (c :: cs) = false)
    (hcut : cutAtPiece piece (c :: cs) = some (front, back)) :
    ∃ front', front = c :: front' ∧ cutAtPiece piece cs = some (front', back) := by
  rw [cutAtPiece, hstart, if_neg Bool.false_ne_true] at hcut
  obtain ⟨⟨front', back'⟩, hcs, heq⟩ := Option.map_eq_some_iff.mp hcut
  obtain ⟨rfl, rfl⟩ := Prod.mk.inj heq
  exact ⟨front', rfl, hcs⟩

theorem cutAtPiece_cons_here {piece : List Char} {c : Char} {cs : List Char}
    (hstart : piece.isPrefixOf (c :: cs) = true) :
    cutAtPiece piece (c :: cs) = some ([], (c :: cs).drop piece.length) := by
  rw [cutAtPiece, if_pos hstart]

/-- A cut takes out one occurrence of the piece and nothing else. -/
theorem eq_append_of_cutAtPiece {piece cs front back : List Char} (hpiece : piece ≠ [])
    (hcut : cutAtPiece piece cs = some (front, back)) : cs = front ++ piece ++ back := by
  induction cs generalizing front with
  | nil => simp [cutAtPiece, hpiece] at hcut
  | cons c cs ih =>
    by_cases hstart : piece.isPrefixOf (c :: cs) = true
    · rw [cutAtPiece_cons_here hstart] at hcut
      obtain ⟨rfl, rfl⟩ := Prod.mk.inj (Option.some.inj hcut)
      obtain ⟨rest, hrest⟩ := List.isPrefixOf_iff_prefix.mp hstart
      rw [← hrest, List.drop_left, List.nil_append]
    · obtain ⟨front', rfl, hcs⟩ :=
        cutAtPiece_cons_later (Bool.eq_false_iff.mpr hstart) hcut
      rw [ih hcs, List.cons_append, List.cons_append]

/-- A cut is at the first occurrence: the piece does not occur before it. -/
theorem not_occursIn_of_cutAtPiece {piece cs front back : List Char} (hpiece : piece ≠ [])
    (hcut : cutAtPiece piece cs = some (front, back)) : occursIn piece front = false := by
  induction cs generalizing front with
  | nil => simp [cutAtPiece, hpiece] at hcut
  | cons c cs ih =>
    by_cases hstart : piece.isPrefixOf (c :: cs) = true
    · rw [cutAtPiece_cons_here hstart] at hcut
      obtain ⟨rfl, -⟩ := Prod.mk.inj (Option.some.inj hcut)
      simp [occursIn, cutAtPiece, hpiece]
    · obtain ⟨front', rfl, hcs⟩ :=
        cutAtPiece_cons_later (Bool.eq_false_iff.mpr hstart) hcut
      -- an occurrence at the very front would be one in the whole text
      have hnone : piece.isPrefixOf (c :: front') = false := by
        refine Bool.eq_false_iff.mpr fun hpre => hstart ?_
        rw [List.isPrefixOf_iff_prefix] at hpre ⊢
        rw [eq_append_of_cutAtPiece hpiece hcs, List.append_assoc, ← List.cons_append]
        exact hpre.trans (List.prefix_append _ _)
      have hrest := ih hcs
      unfold occursIn at hrest ⊢
      rw [cutAtPiece, hnone, if_neg Bool.false_ne_true, Option.isSome_map]
      exact hrest

/-- What follows the first occurrence does not matter for where it is. -/
theorem cutAtPiece_append_piece {piece cs front back : List Char} (hpiece : piece ≠ [])
    (hcut : cutAtPiece piece cs = some (front, back)) :
    cutAtPiece piece (front ++ piece) = some (front, []) := by
  induction cs generalizing front with
  | nil => simp [cutAtPiece, hpiece] at hcut
  | cons c cs ih =>
    by_cases hstart : piece.isPrefixOf (c :: cs) = true
    · rw [cutAtPiece_cons_here hstart] at hcut
      obtain ⟨rfl, -⟩ := Prod.mk.inj (Option.some.inj hcut)
      obtain ⟨d, ds, rfl⟩ := List.exists_cons_of_ne_nil hpiece
      have hself : (d :: ds).isPrefixOf (d :: ds) = true :=
        List.isPrefixOf_iff_prefix.mpr (List.prefix_refl _)
      rw [List.nil_append, cutAtPiece_cons_here hself, List.drop_length]
    · obtain ⟨front', rfl, hcs⟩ :=
        cutAtPiece_cons_later (Bool.eq_false_iff.mpr hstart) hcut
      have hnone : piece.isPrefixOf (c :: (front' ++ piece)) = false := by
        refine Bool.eq_false_iff.mpr fun hpre => hstart ?_
        rw [List.isPrefixOf_iff_prefix] at hpre ⊢
        rw [eq_append_of_cutAtPiece hpiece hcs, ← List.cons_append]
        exact hpre.trans (List.prefix_append _ _)
      rw [List.cons_append, cutAtPiece, hnone, if_neg Bool.false_ne_true, ih hcs]
      rfl

/-! ## The scanner between braces -/

theorem nextLine_add_count (line : Nat) (c : Char) (cs : List Char) :
    nextLine line c + countChar '\n' cs = line + countChar '\n' (c :: cs) := by
  unfold nextLine countChar
  rw [List.count_cons]
  split <;> omega

namespace Place

/-- The braces that end the piece that the scanner stands in. -/
def stop : Place → List Char
  | .text .. => openBraces
  | .body .. => closeBraces

/-- The place with more of the piece collected. -/
def collect (cs : List Char) : Place → Place
  | .text collected start => .text (cs.reverse ++ collected) start
  | .body collected start trimLeft => .body (cs.reverse ++ collected) start trimLeft

theorem stop_ne_nil (p : Place) : p.stop ≠ [] := by
  cases p <;> exact List.cons_ne_nil _ _

theorem collect_collect (p : Place) (c : Char) (cs : List Char) :
    (p.collect [c]).collect cs = p.collect (c :: cs) := by
  cases p <;> simp [collect]

theorem stop_collect (p : Place) (cs : List Char) : (p.collect cs).stop = p.stop := by
  cases p <;> rfl

end Place

/-- The piece goes on at any character but at the braces that end it. -/
theorem scan_cons {p : Place} {c : Char} {cs : List Char}
    (h : p.stop.isPrefixOf (c :: cs) = false) (line : Nat) :
    scan p line (c :: cs) = scan (p.collect [c]) (nextLine line c) cs := by
  cases p with
  | text collected start =>
    rw [scan]
    · rfl
    all_goals
      rintro rest rfl rfl
      cases h
  | body collected start trimLeft =>
    rw [scan]
    · rfl
    · rintro rest rfl rfl
      cases h

/-- **The scanner goes on to the first braces that end the piece**, and is then on the
line of these braces. -/
theorem scan_of_cut {p : Place} {cs front back : List Char}
    (hcut : cutAtPiece p.stop cs = some (front, back)) (line : Nat) :
    scan p line cs = scan (p.collect front) (line + countChar '\n' front) (p.stop ++ back) := by
  induction cs generalizing p front line with
  | nil => simp [cutAtPiece, p.stop_ne_nil] at hcut
  | cons c cs ih =>
    by_cases hstart : p.stop.isPrefixOf (c :: cs) = true
    · have happend := eq_append_of_cutAtPiece p.stop_ne_nil hcut
      rw [cutAtPiece_cons_here hstart] at hcut
      obtain ⟨rfl, -⟩ := Prod.mk.inj (Option.some.inj hcut)
      rw [happend]
      cases p <;> rfl
    · rw [Bool.not_eq_true] at hstart
      obtain ⟨front', rfl, hcs⟩ := cutAtPiece_cons_later hstart hcut
      rw [← p.stop_collect [c]] at hcs
      rw [scan_cons hstart, ih hcs, nextLine_add_count, p.collect_collect, p.stop_collect]

/-- Without such braces it goes on to the end. -/
theorem scan_of_not_occursIn {p : Place} {cs : List Char} (h : occursIn p.stop cs = false)
    (line : Nat) : scan p line cs = scan (p.collect cs) (line + countChar '\n' cs) [] := by
  induction cs generalizing p line with
  | nil => cases p <;> rfl
  | cons c cs ih =>
    obtain ⟨hstart, hrest⟩ := occursIn_cons h
    rw [← p.stop_collect [c]] at hrest
    rw [scan_cons hstart, ih hrest, nextLine_add_count, p.collect_collect]

/-- The tokens of what follows opening braces, `line` being theirs. -/
def scanOpened (line : Nat) : List Char → List Token × Option Nat
  | '-' :: cs =>
    if trimsLeft cs then scan (.body [] line true) line cs
    else scan (.body [] line false) line ('-' :: cs)
  | cs => scan (.body [] line false) line cs

/-- Opening braces end a text. A dash after them that is no marker is the first character
of the body, like any other. -/
theorem scan_text_open (collected : List Char) (start line : Nat) (back : List Char) :
    scan (.text collected start) line (openBraces ++ back) =
      (textToken collected start ++ (scanOpened line back).1, (scanOpened line back).2) := by
  unfold scanOpened openBraces
  split
  next cs =>
    simp only [List.cons_append, List.nil_append, scan]
    have hdash : scan (.body [] line false) line ('-' :: cs) =
        scan (.body ['-'] line false) line cs := by
      exact scan_cons (p := .body [] line false) rfl line
    rw [hdash]
  next hdash => rw [List.cons_append, List.cons_append, List.nil_append, scan.eq_4 _ _ _ _ hdash]

/-! ## The token of an action -/

/-- What is cut off the end of a body is its marker. -/
theorem eq_append_of_cutTrimMarker (inner : List Char) :
    inner = (cutTrimMarker inner.reverse).1.reverse ++
      trimMarker (cutTrimMarker inner.reverse).2 := by
  generalize hrev : inner.reverse = collected
  obtain rfl : inner = collected.reverse := by rw [← hrev, List.reverse_reverse]
  unfold cutTrimMarker trimMarker
  split
  · rfl
  · split <;> simp
  · simp

/-- A dash before the end trims if it stands alone or after a blank. -/
theorem cutTrimMarker_snd_iff (inner : List Char) :
    (cutTrimMarker inner.reverse).2 = true ↔
      inner = ['-'] ∨ ∃ c cs, isBlank c = true ∧ inner = cs ++ [c, '-'] := by
  generalize hrev : inner.reverse = collected
  obtain rfl : inner = collected.reverse := by rw [← hrev, List.reverse_reverse]
  unfold cutTrimMarker
  split
  next => simp
  next c rest =>
    by_cases hblank : isBlank c = true
    · simp only [hblank, if_true, true_iff]
      exact .inr ⟨c, rest.reverse, hblank, by simp⟩
    · rw [if_neg hblank]
      refine iff_of_false Bool.false_ne_true ?_
      rintro (halone | ⟨d, cs, hd, hend⟩)
      · simpa using congrArg List.length halone
      · rw [List.reverse_eq_iff] at hend
        obtain ⟨rfl, -⟩ : c = d ∧ rest = cs.reverse := by simpa using hend
        exact hblank hd
  next hlone hdash =>
    refine iff_of_false Bool.false_ne_true ?_
    rintro (halone | ⟨d, cs, hd, hend⟩)
    · exact hlone (by simpa using halone)
    · rw [List.reverse_eq_iff] at hend
      exact hdash d cs.reverse (by simpa using hend)

/-- **A closed action stands for its braces and what is between them.** -/
theorem spans_bodyToken {trimLeft : Bool} {inner : List Char} (line : Nat) (rest : List Char)
    (hcut : cutAtPiece closeBraces (trimMarker trimLeft ++ inner ++ closeBraces) =
      some (trimMarker trimLeft ++ inner, []))
    (hleft : trimLeft = true ↔ ∃ c, isBlank c = true ∧
      ['-', c] <+: trimMarker trimLeft ++ inner ++ closeBraces) :
    (bodyToken inner.reverse line trimLeft).Spans
      (openBraces ++ (trimMarker trimLeft ++ inner ++ closeBraces)) rest := by
  have hsplit := eq_append_of_cutTrimMarker inner
  have hmark := cutTrimMarker_snd_iff inner
  unfold bodyToken
  generalize cutTrimMarker inner.reverse = cut at hsplit hmark ⊢
  obtain ⟨kept, trimRight⟩ := cut
  subst hsplit
  have hbraced : IsBraced trimLeft trimRight kept.reverse (openBraces ++
      (trimMarker trimLeft ++ (kept.reverse ++ trimMarker trimRight) ++ closeBraces)) :=
    { written := by simp only [List.append_assoc]
      closed := by
        rw [List.append_assoc (trimMarker trimLeft) kept.reverse]
        exact hcut
      marked_left := by
        simp only [List.prefix_append_right_inj]
        exact hleft
      marked_right := hmark }
  -- a comment is told from an action by what is between the braces, trim markers apart
  by_cases hcomment : opensComment kept.reverse = true
  · simp only [hcomment, if_true]
    exact ⟨kept.reverse, hbraced, hcomment, by rw [String.toList_ofList, commentContent]⟩
  · rw [Bool.not_eq_true] at hcomment
    simp only [hcomment, if_false, Bool.false_eq_true]
    exact ⟨kept.reverse, hbraced, hcomment, String.toList_ofList⟩

theorem line_bodyToken (collected : List Char) (line : Nat) (trimLeft : Bool) :
    (bodyToken collected line trimLeft).line = line := by
  unfold bodyToken
  dsimp only
  split <;> rfl

/-! ## The tokens of a text -/

/-- Text without opening braces is one token, or none if there is no text. -/
theorem Tiling.textToken {line : Nat} {front rest : List Char} {tokens : List Token}
    {unclosed : Option Nat} (hfront : occursIn openBraces front = false)
    (hends : rest = [] ∨ ∃ back, cutAtPiece openBraces (front ++ rest) = some (front, back))
    (hrest : Tiling (line + countChar '\n' front) tokens unclosed rest) :
    Tiling line (textToken front.reverse line ++ tokens) unclosed (front ++ rest) := by
  cases front with
  | nil => exact hrest
  | cons c cs =>
    have hspan : (Token.text (String.ofList (c :: cs)) line).Spans (c :: cs) rest :=
      ⟨String.toList_ofList.symm, List.cons_ne_nil c cs, hfront, hends⟩
    have htoken : Template.textToken (c :: cs).reverse line =
        [.text (String.ofList (c :: cs)) line] := by
      simp [Template.textToken]
    rw [htoken]
    exact .token hspan hrest

/-- A body falls into an action and the tokens after it, or is part of an action that
never closes. -/
theorem Tiling.body (line : Nat) (trimLeft : Bool) {after : List Char}
    (hleft : after ≠ [] → (trimLeft = true ↔ ∃ c, isBlank c = true ∧
      ['-', c] <+: trimMarker trimLeft ++ after))
    (hlater : ∀ rest : List Char, rest.length < after.length → ∀ line,
      Tiling line (scan (.text [] line) line rest).1 (scan (.text [] line) line rest).2 rest) :
    Tiling line (scan (.body [] line trimLeft) line after).1
      (scan (.body [] line trimLeft) line after).2
      (openBraces ++ (trimMarker trimLeft ++ after)) := by
  -- a marker is no part of closing braces
  have hmarker : ∀ cs, cutAtPiece closeBraces (trimMarker trimLeft ++ cs) =
      (cutAtPiece closeBraces cs).map (Prod.map (trimMarker trimLeft ++ ·) id) := by
    intro cs
    cases trimLeft with
    | false => exact (congrFun Option.map_id _).symm
    | true => rfl
  cases hcut : cutAtPiece closeBraces after with
  | none =>
    have hnone : occursIn closeBraces after = false := by rw [occursIn, hcut]; rfl
    rw [scan_of_not_occursIn (p := .body [] line trimLeft) hnone line]
    refine .unclosed line ?_
    rw [occursIn, hmarker, hcut]
    rfl
  | some cut =>
    obtain ⟨inner, back⟩ := cut
    have hbraces : closeBraces ≠ [] := List.cons_ne_nil _ _
    have hafter := eq_append_of_cutAtPiece hbraces hcut
    have hspan : (bodyToken inner.reverse line trimLeft).Spans
        (openBraces ++ (trimMarker trimLeft ++ inner ++ closeBraces)) back := by
      have hclosed := hmarker (inner ++ closeBraces)
      rw [cutAtPiece_append_piece hbraces hcut, ← List.append_assoc] at hclosed
      refine spans_bodyToken line back hclosed ?_
      rw [hleft (by simp [hafter, closeBraces]), hafter, ← List.append_assoc]
      -- the braces leave room for a marker and a blank, so what follows them adds none
      refine exists_congr fun c => and_congr_right fun _ => ?_
      rw [← List.append_assoc]
      refine ⟨fun h => ?_, fun h => h.trans (List.prefix_append _ _)⟩
      refine List.prefix_of_prefix_length_le h (List.prefix_append _ _) ?_
      simp only [List.length_append, List.length_cons, closeBraces]
      omega
    have hback : back.length < after.length := by
      simp only [hafter, List.length_append, closeBraces, List.length_cons]
      omega
    have hcount : countChar '\n' (openBraces ++ (trimMarker trimLeft ++ inner ++ closeBraces)) =
        countChar '\n' inner := by
      cases trimLeft <;> simp [countChar, openBraces, closeBraces, trimMarker]
    have hrest := hlater back hback (line + countChar '\n' inner)
    rw [scan_of_cut (p := .body [] line trimLeft) hcut line, hafter]
    have htoken := Tiling.token hspan (by rwa [line_bodyToken, hcount])
    rw [line_bodyToken] at htoken
    simpa [Place.collect, Place.stop, closeBraces, scan] using htoken

/-- What follows opening braces is a body, after a marker or without. -/
theorem Tiling.opened (line : Nat) {back : List Char}
    (hlater : ∀ rest : List Char, rest.length < back.length → ∀ line,
      Tiling line (scan (.text [] line) line rest).1 (scan (.text [] line) line rest).2 rest) :
    Tiling line (scanOpened line back).1 (scanOpened line back).2 (openBraces ++ back) := by
  unfold scanOpened
  split
  next cs =>
    split
    next htrims =>
      refine Tiling.body line true (fun hne => ?_) fun rest hlt =>
        hlater rest (Nat.lt_succ_of_lt hlt)
      obtain ⟨c, cs, rfl⟩ := List.exists_cons_of_ne_nil hne
      exact iff_of_true rfl ⟨c, htrims, List.prefix_append ['-', c] cs⟩
    next htrims =>
      -- the dash is the first character of the body
      refine Tiling.body line false (fun _ => iff_of_false Bool.false_ne_true ?_) hlater
      rintro ⟨c, hblank, rest, hrest⟩
      obtain rfl : c :: rest = cs := by simpa [trimMarker] using hrest
      exact htrims hblank
  next hdash =>
    refine Tiling.body line false (fun _ => iff_of_false Bool.false_ne_true ?_) hlater
    rintro ⟨c, -, rest, hrest⟩
    exact hdash (c :: rest) hrest.symm

/-- **The tokens of a text tile it.** -/
theorem tiling_scan (line : Nat) (cs : List Char) :
    Tiling line (scan (.text [] line) line cs).1 (scan (.text [] line) line cs).2 cs := by
  -- not on the characters: after an action the scanner starts anew on what is left
  induction hlen : cs.length using Nat.strongRecOn generalizing cs line with
  | _ n ih =>
    subst hlen
    cases hcut : cutAtPiece openBraces cs with
    | none =>
      have hnone : occursIn openBraces cs = false := by rw [occursIn, hcut]; rfl
      have htext := Tiling.textToken hnone (.inl rfl) (.done (line + countChar '\n' cs))
      rw [scan_of_not_occursIn (p := .text [] line) hnone line]
      simpa [Place.collect, scan] using htext
    | some cut =>
      obtain ⟨front, back⟩ := cut
      have hbraces : openBraces ≠ [] := List.cons_ne_nil _ _
      have hcs := eq_append_of_cutAtPiece hbraces hcut
      have hlater : ∀ rest : List Char, rest.length < back.length → ∀ line,
          Tiling line (scan (.text [] line) line rest).1
            (scan (.text [] line) line rest).2 rest := by
        refine fun rest hlt line => ih rest.length ?_ line rest rfl
        simp only [hcs, List.length_append]
        omega
      -- the text before the braces is a token of its own, and the body is what follows them
      have hfirst : cutAtPiece openBraces (front ++ (openBraces ++ back)) = some (front, back) := by
        rw [← List.append_assoc, ← hcs, hcut]
      have htext := Tiling.textToken (not_occursIn_of_cutAtPiece hbraces hcut)
        (.inr ⟨back, hfirst⟩) (Tiling.opened (line + countChar '\n' front) hlater)
      rw [scan_of_cut (p := .text [] line) hcut line]
      simp only [Place.collect, Place.stop, List.append_nil, scan_text_open]
      rw [hcs, List.append_assoc]
      exact htext

/-! ## Spans and lines -/

/-- The spans of a tiling, in order, and what follows the last of them. -/
theorem Tiling.spans {line : Nat} {tokens : List Token} {unclosed : Option Nat} {cs : List Char}
    (h : Tiling line tokens unclosed cs) :
    ∃ (spans : List (List Char)) (tail : List Char), cs = spans.flatten ++ tail ∧
      spans.length = tokens.length ∧
      (∀ (i : Nat) (t : Token) (span : List Char), tokens[i]? = some t → spans[i]? = some span →
        t.Spans span ((spans.drop (i + 1)).flatten ++ tail) ∧
          t.line = line + countChar '\n' (spans.take i).flatten) ∧
      ((tail = [] ∧ unclosed = none) ∨
        ∃ back, tail = openBraces ++ back ∧ occursIn closeBraces back = false ∧
          unclosed = some (line + countChar '\n' spans.flatten)) := by
  induction h with
  | done line => exact ⟨[], [], rfl, rfl, fun i t span ht => by simp at ht, .inl ⟨rfl, rfl⟩⟩
  | @unclosed line back hback =>
    exact ⟨[], openBraces ++ back, rfl, rfl, fun i t span ht => by simp at ht,
      .inr ⟨back, rfl, hback, rfl⟩⟩
  | @token t span rest tokens unclosed hspan hrest ih =>
    obtain ⟨spans, tail, rfl, hlength, htokens, hend⟩ := ih
    have hcount : ∀ cs, t.line + countChar '\n' (span ++ cs) =
        t.line + countChar '\n' span + countChar '\n' cs := by
      intro cs
      simp only [countChar, List.count_append]
      omega
    refine ⟨span :: spans, tail, ?_, ?_, ?_, ?_⟩
    · rw [List.flatten_cons, List.append_assoc]
    · rw [List.length_cons, List.length_cons, hlength]
    · intro i u s hu hs
      cases i with
      | zero =>
        obtain rfl : t = u := by simpa using hu
        obtain rfl : span = s := by simpa using hs
        exact ⟨hspan, rfl⟩
      | succ i =>
        rw [List.getElem?_cons_succ] at hu hs
        obtain ⟨hspans, hline⟩ := htokens i u s hu hs
        rw [List.drop_succ_cons, List.take_succ_cons, List.flatten_cons, hcount]
        exact ⟨hspans, hline⟩
    · rw [List.flatten_cons, hcount]
      exact hend

/-- No other fault has this message. -/
theorem Fault.message_eq_unclosedAction_iff (f : Fault) :
    f.message = "Unclosed template action" ↔ f = .unclosedAction := by
  constructor
  · intro h
    cases f with
    | unclosedAction => rfl
    | unexpectedEnd => exact absurd h (by decide)
    | unclosedBlock kind => cases kind <;> exact absurd h (by decide)
  · rintro rfl
    rfl

/-- Of the errors of a template, one at most is an action that never closes. -/
theorem Document.filter_errors_unclosedAction (d : Document) :
    d.errors.filter (fun e => decide (e.fault.message = "Unclosed template action")) =
      d.unclosedAction.toList.map (⟨.unclosedAction, ·⟩) := by
  simp only [Fault.message_eq_unclosedAction_iff]
  simp only [Document.errors, List.filter_append, List.filter_map]
  simp [Function.comp_def]

theorem Document.unclosedAction_ofText (text path : String) :
    (Document.ofText text path).unclosedAction = (scan (.text [] 1) 1 text.toList).2 := rfl

/-- **The tokens of a template tile its text.** The text is the spans of the tokens one
after the other, up to an action that never closes, if there is one: it is the one error
of its kind. The line of a token, and of that error, is one more than the line feeds
before. -/
theorem Document.tokens_tile_text (text path : String) :
    ∃ (spans : List (List Char)) (tail : List Char), text.toList = spans.flatten ++ tail ∧
      spans.length = (Document.ofText text path).tokens.length ∧
      (∀ (i : Nat) (t : Token) (span : List Char),
        (Document.ofText text path).tokens[i]? = some t → spans[i]? = some span →
        t.Spans span ((spans.drop (i + 1)).flatten ++ tail) ∧
          t.line = 1 + countChar '\n' (spans.take i).flatten) ∧
      ((tail = [] ∧ (Document.ofText text path).errors.filter
          (fun e => decide (e.fault.message = "Unclosed template action")) = []) ∨
        ∃ back, tail = openBraces ++ back ∧ occursIn closeBraces back = false ∧
          (Document.ofText text path).errors.filter
            (fun e => decide (e.fault.message = "Unclosed template action")) =
              [⟨.unclosedAction, 1 + countChar '\n' spans.flatten⟩]) := by
  obtain ⟨spans, tail, htext, hlength, htokens, hend⟩ := (tiling_scan 1 text.toList).spans
  refine ⟨spans, tail, htext, hlength, htokens, ?_⟩
  rw [Document.filter_errors_unclosedAction, Document.unclosedAction_ofText]
  rcases hend with ⟨htail, hclosed⟩ | ⟨back, htail, hback, hunclosed⟩
  · exact .inl ⟨htail, by rw [hclosed]; rfl⟩
  · exact .inr ⟨back, htail, hback, by rw [hunclosed]; rfl⟩

end ContainerLint.Template
