/-
Settings that give away the host.

Two rules look for a setting that is written out in the text of a template: a line that
holds the setting and nothing else but a dash before it, and spaces and tabs. A template is
text with actions and comments in it, so a line of the template may be cut into pieces that
belong to different tokens; what is looked at is each piece of each text.

The line of a finding has two parts. The token has the line that it starts on, which the
scanner has counted over all that stands before; and the piece has its place among the
pieces of its token. What is said here does not speak of these. A finding belongs to an
offset in the text of the template, and its line is one more than the line feeds before it.
-/
import ContainerLint.Proofs.Chart.Containment
import ContainerLint.Proofs.Lint.Independence
import ContainerLint.Proofs.Rule.Run
import ContainerLint.Proofs.Template.Balance
import ContainerLint.Proofs.Template.Closing

namespace ContainerLint.Template

/-! ## Places -/

theorem ArePlaces.congr {p q : Nat → Prop} {places : List Nat} (h : ArePlaces p places)
    (hpq : ∀ o, q o ↔ p o) : ArePlaces q places :=
  ⟨h.increasing, fun o => (h.mem_iff o).trans (hpq o).symm⟩

/-- Places before a border and places behind it, counted from there. -/
theorem ArePlaces.append_map_add {p q : Nat → Prop} {places more : List Nat} {border : Nat}
    (hplaces : ArePlaces p places) (hbound : ∀ o ∈ places, o < border) (hmore : ArePlaces q more) :
    ArePlaces (fun o => p o ∨ ∃ o', o = border + o' ∧ q o')
      (places ++ more.map (border + ·)) := by
  refine ⟨List.pairwise_append.mpr ⟨hplaces.increasing, ?_, fun a ha b hb => ?_⟩, fun o => ?_⟩
  · exact hmore.increasing.map _ fun a b hab => Nat.add_lt_add_left hab _
  · obtain ⟨o, -, rfl⟩ := List.mem_map.mp hb
    exact Nat.lt_of_lt_of_le (hbound a ha) (Nat.le_add_right _ o)
  · rw [List.mem_append, hplaces.mem_iff, List.mem_map]
    refine or_congr_right (exists_congr fun o' => ?_)
    rw [hmore.mem_iff, and_comm, eq_comm]

end ContainerLint.Template

namespace ContainerLint.Chart

open ContainerLint.Text ContainerLint.Template

/-! ## Lines that consist of a setting -/

/-- The text holds spaces and tabs only. -/
def IsIndent (cs : List Char) : Prop :=
  ∀ c ∈ cs, c = ' ' ∨ c = '\t'

/-- The line consists of a setting: there may be a dash before it, and there may be spaces
and tabs around both. -/
def IsSettingLine (setting line : List Char) : Prop :=
  ∃ indent dash gap trail, line = indent ++ dash ++ gap ++ setting ++ trail ∧
    (dash = [] ∨ dash = ['-']) ∧ IsIndent indent ∧ IsIndent gap ∧ IsIndent trail

/-- The setting neither starts nor ends with what may stand around it. -/
structure IsSolid (setting : List Char) : Prop where
  first : ∃ c cs, setting = c :: cs ∧ isIndent c = false ∧ c ≠ '-'
  last : ∃ cs c, setting = cs ++ [c] ∧ isIndent c = false

section Lines

variable {setting line front back : List Char}

theorem isIndent_iff {cs : List Char} : IsIndent cs ↔ ∀ c ∈ cs, isIndent c = true := by
  simp only [IsIndent, isIndent, Bool.or_eq_true, beq_iff_eq]

/-- What is dropped from the front is spaces and tabs. -/
theorem exists_append_dropFront (cs : List Char) :
    ∃ indent, IsIndent indent ∧ cs = indent ++ dropFront isIndent cs := by
  refine ⟨cs.takeWhile isIndent, isIndent_iff.mpr fun c hc => ?_, ?_⟩
  · exact List.mem_takeWhile_imp hc
  · exact List.takeWhile_append_dropWhile.symm

/-- What is dropped from the back is spaces and tabs. -/
theorem exists_append_dropBack (cs : List Char) :
    ∃ trail, IsIndent trail ∧ cs = dropBack isIndent cs ++ trail := by
  obtain ⟨indent, hindent, hcs⟩ := exists_append_dropFront cs.reverse
  refine ⟨indent.reverse, fun c hc => hindent c (List.mem_reverse.mp hc), ?_⟩
  rw [dropBack, ← List.reverse_append]
  exact List.reverse_eq_iff.mp hcs

theorem dropFront_append (hfront : IsIndent front) (cs : List Char) :
    dropFront isIndent (front ++ cs) = dropFront isIndent cs :=
  List.dropWhile_append_of_pos (isIndent_iff.mp hfront)

/-- A setting ends the blanks before it. -/
theorem IsSolid.dropFront_append (h : IsSolid setting) (hfront : IsIndent front)
    (back : List Char) : dropFront isIndent (front ++ setting ++ back) = setting ++ back := by
  obtain ⟨c, cs, rfl, hc, -⟩ := h.first
  rw [List.append_assoc, Chart.dropFront_append hfront]
  exact List.dropWhile_cons_of_neg (by simp [hc])

/-- A setting ends the blanks after it, seen from the end. -/
theorem IsSolid.dropBack_append (h : IsSolid setting) (hback : IsIndent back)
    (front : List Char) : dropBack isIndent (front ++ setting ++ back) = front ++ setting := by
  obtain ⟨cs, c, rfl, hc⟩ := h.last
  have hreverse : IsIndent back.reverse := fun d hd => hback d (List.mem_reverse.mp hd)
  rw [dropBack, List.reverse_append, ← dropFront, Chart.dropFront_append hreverse,
    ← List.append_assoc, List.reverse_append, List.reverse_singleton, List.singleton_append,
    dropFront, List.dropWhile_cons_of_neg (by simp [hc]), List.reverse_cons, List.reverse_reverse]

/-- **A line is recognised exactly if it consists of the setting.** -/
theorem isSetting_iff {setting : String} (h : IsSolid setting.toList) :
    isSetting setting line = true ↔ IsSettingLine setting.toList line := by
  unfold isSetting
  dsimp only
  rw [beq_iff_eq]
  constructor
  · intro hline
    -- what is dropped is put back in front and behind, and a dash is taken with its gap
    obtain ⟨indent, hindent, hfront⟩ := exists_append_dropFront line
    obtain ⟨trail, htrail, hback⟩ := exists_append_dropBack (dropFront isIndent line)
    generalize dropBack isIndent (dropFront isIndent line) = core at hline hback
    split at hline
    next rest =>
      obtain ⟨gap, hgap, hrest⟩ := exists_append_dropFront rest
      refine ⟨indent, ['-'], gap, trail, ?_, .inr rfl, hindent, hgap, htrail⟩
      rw [hfront, hback, hrest, hline]
      simp
    next =>
      refine ⟨indent, [], [], trail, ?_, .inl rfl, hindent, nofun, htrail⟩
      rw [hfront, hback, hline]
      simp
  · rintro ⟨indent, dash, gap, trail, rfl, hdash, hindent, hgap, htrail⟩
    rcases hdash with rfl | rfl
    · -- without a dash, all that stands before the setting goes at once
      have hboth : IsIndent (indent ++ gap) :=
        fun c hc => (List.mem_append.mp hc).elim (hindent c) (hgap c)
      rw [List.append_nil, h.dropFront_append hboth, ← List.nil_append setting.toList,
        h.dropBack_append htrail]
      obtain ⟨c, cs, hsetting, -, hc⟩ := h.first
      rw [hsetting, List.nil_append]
      split
      next rest heq => exact absurd (List.cons.inj heq).1 hc
      next => rfl
    · have hfront : dropFront isIndent (indent ++ ['-'] ++ gap ++ setting.toList ++ trail) =
          ('-' :: gap) ++ setting.toList ++ trail := by
        simp only [List.append_assoc, List.cons_append]
        rw [Chart.dropFront_append hindent]
        rfl
      have hgap' := h.dropFront_append hgap []
      rw [hfront, h.dropBack_append htrail, List.cons_append]
      rwa [List.append_nil, List.append_nil] at hgap'

end Lines

/-! ## Pieces of a text -/

/-- The piece stands at an offset of a text, with a line feed or an end of the text on either
side, and no line feed in it. -/
def IsPieceAt (cs : List Char) (offset : Nat) (piece : List Char) : Prop :=
  ∃ front back, cs = front ++ piece ++ back ∧ front.length = offset ∧ '\n' ∉ piece ∧
    (∀ c ∈ front.getLast?, c = '\n') ∧ ∀ c ∈ back.head?, c = '\n'

/-- A piece of the text that consists of the setting stands at an offset. -/
def HasSettingAt (setting cs : List Char) (offset : Nat) : Prop :=
  ∃ piece, IsPieceAt cs offset piece ∧ IsSettingLine setting piece

section Pieces

variable {setting cs first rest piece : List Char} {offset : Nat}

/-- Where there is no line feed, the only piece is the whole text. -/
theorem isPieceAt_of_not_mem (h : '\n' ∉ cs) :
    IsPieceAt cs offset piece ↔ offset = 0 ∧ piece = cs := by
  constructor
  · rintro ⟨front, back, rfl, rfl, -, hfront, hback⟩
    simp only [List.mem_append, not_or] at h
    cases back with
    | cons c back => exact absurd (hback c rfl ▸ List.mem_cons_self) h.2
    | nil =>
      cases hlast : front.getLast? with
      | none =>
        obtain rfl := List.getLast?_eq_none_iff.mp hlast
        exact ⟨rfl, by simp⟩
      | some c =>
        rw [hfront c hlast] at hlast
        exact absurd (List.mem_of_getLast? hlast) h.1.1
  · rintro ⟨rfl, rfl⟩
    exact ⟨[], [], by simp, rfl, h, nofun, nofun⟩

/-- A piece of a text is its first line, or a piece of the rest. -/
theorem isPieceAt_append_cons (h : '\n' ∉ first) :
    IsPieceAt (first ++ '\n' :: rest) offset piece ↔
      offset = 0 ∧ piece = first ∨
        ∃ o, offset = first.length + 1 + o ∧ IsPieceAt rest o piece := by
  constructor
  · rintro ⟨front, back, hcs, rfl, hpiece, hfront, hback⟩
    cases hcut : cutAt '\n' front with
    | none =>
      -- a front without a line feed is empty, and the piece goes up to the first one
      have hnone : '\n' ∉ front := cutAt_eq_none_iff.mp hcut
      obtain rfl : front = [] := by
        cases hlast : front.getLast? with
        | none => exact List.getLast?_eq_none_iff.mp hlast
        | some c => exact absurd (hfront c hlast ▸ List.mem_of_getLast? hlast) hnone
      refine .inl ⟨rfl, ?_⟩
      have hfirst := cutAt_append_cons h rest
      rw [hcs, List.nil_append] at hfirst
      cases back with
      | nil =>
        rw [List.append_nil, cutAt_eq_none_iff.mpr hpiece] at hfirst
        cases hfirst
      | cons c back =>
        rw [hback c rfl, cutAt_append_cons hpiece] at hfirst
        exact (Prod.mk.inj (Option.some.inj hfirst)).1
    | some cut =>
      obtain ⟨line, front'⟩ := cut
      obtain rfl := append_of_cutAt hcut
      have hfirst := cutAt_append_cons h rest
      rw [hcs, List.append_assoc, List.append_assoc, List.cons_append,
        cutAt_append_cons (not_mem_of_cutAt hcut)] at hfirst
      obtain ⟨rfl, rfl⟩ := Prod.mk.inj (Option.some.inj hfirst)
      refine .inr ⟨front'.length, ?_, front', back, by rw [List.append_assoc], rfl, hpiece, ?_, hback⟩
      · simp only [List.length_append, List.length_cons]
        omega
      · intro c hc
        refine hfront c ?_
        rw [List.getLast?_append, List.getLast?_cons, Option.mem_def.mp hc]
        rfl
  · rintro (⟨rfl, rfl⟩ | ⟨o, rfl, front, back, rfl, rfl, hpiece, hfront, hback⟩)
    · refine ⟨[], '\n' :: rest, by simp, rfl, h, nofun, ?_⟩
      rintro c ⟨⟩
      rfl
    · refine ⟨first ++ '\n' :: front, back, by simp, ?_, hpiece, ?_, hback⟩
      · simp only [List.length_append, List.length_cons]
        omega
      · intro c hc
        cases hlast : front.getLast? with
        | none =>
          obtain rfl := List.getLast?_eq_none_iff.mp hlast
          simpa using hc.symm
        | some d =>
          rw [List.getLast?_append, List.getLast?_cons, hlast] at hc
          exact hfront c (hlast.trans hc)

/-- The setting is no shorter than one character, so a piece that consists of it is inside
the text. -/
theorem HasSettingAt.lt_length (hsolid : IsSolid setting) (h : HasSettingAt setting cs offset) :
    offset < cs.length := by
  obtain ⟨piece, ⟨front, back, rfl, rfl, -⟩, indent, dash, gap, trail, rfl, -⟩ := h
  obtain ⟨c, more, rfl, -⟩ := hsolid.first
  simp only [List.length_append, List.length_cons]
  omega

/-- An offset behind the first line feed counts it. -/
theorem countChar_take_first (h : '\n' ∉ first) (o : Nat) :
    countChar '\n' ((first ++ '\n' :: rest).take (first.length + 1 + o)) =
      1 + countChar '\n' (rest.take o) := by
  have hsplit : first ++ '\n' :: rest = (first ++ ['\n']) ++ rest := List.append_cons first '\n' rest
  have hlength : (first ++ ['\n']).length = first.length + 1 := List.length_append
  rw [hsplit, ← hlength, List.take_length_add_append]
  simp only [countChar, List.count_append, List.count_eq_zero.mpr h, List.count_singleton_self,
    Nat.zero_add]

/-- A setting stands in the first line of a text, or in the rest. -/
theorem hasSettingAt_append_cons {setting : String} (hsolid : IsSolid setting.toList)
    (h : '\n' ∉ first) : HasSettingAt setting.toList (first ++ '\n' :: rest) offset ↔
      offset = 0 ∧ isSetting setting first = true ∨
        ∃ o, offset = first.length + 1 + o ∧ HasSettingAt setting.toList rest o := by
  simp only [HasSettingAt, isPieceAt_append_cons h, isSetting_iff hsolid]
  constructor
  · rintro ⟨piece, ⟨ho, rfl⟩ | ⟨o, ho, hpiece⟩, hline⟩
    · exact .inl ⟨ho, hline⟩
    · exact .inr ⟨o, ho, piece, hpiece, hline⟩
  · rintro (⟨ho, hline⟩ | ⟨o, ho, piece, hpiece, hline⟩)
    · exact ⟨first, .inl ⟨ho, rfl⟩, hline⟩
    · exact ⟨piece, .inr ⟨o, ho, hpiece⟩, hline⟩

/-- The place of a line that is a setting or not. -/
theorem arePlaces_first (c : Bool) :
    ArePlaces (fun o => o = 0 ∧ c = true) (if c then [0] else []) := by
  cases c
  · exact ⟨.nil, by simp⟩
  · exact ⟨List.pairwise_singleton _ _, by simp⟩

/-- **The settings of one text**, by their offsets in it. The induction is on the lines of
the text. -/
theorem exists_offsets_settingLines {setting : String} (hsolid : IsSolid setting.toList)
    (line : Nat) (content : String) :
    ∃ offsets, ArePlaces (HasSettingAt setting.toList content.toList) offsets ∧
      settingLines setting line content =
        offsets.map fun o => line + countChar '\n' (content.toList.take o) := by
  unfold settingLines
  generalize content.toList = cs
  induction hlength : cs.length using Nat.strongRecOn generalizing cs line with
  | _ n ih =>
    subst hlength
    -- the first line gives its offset or none, and those of the rest are moved behind it
    cases hcut : cutAt '\n' cs with
    | none =>
      have hnone : '\n' ∉ cs := cutAt_eq_none_iff.mp hcut
      rw [splitAtChar_eq_singleton hnone]
      refine ⟨if isSetting setting cs then [0] else [], (arePlaces_first _).congr fun o => ?_, ?_⟩
      · simp only [HasSettingAt, isPieceAt_of_not_mem hnone, and_assoc, exists_and_left,
          exists_eq_left, isSetting_iff hsolid]
      · split <;> simp_all [countChar]
    | some cut =>
      obtain ⟨first, rest⟩ := cut
      have hfirst : '\n' ∉ first := not_mem_of_cutAt hcut
      obtain rfl := append_of_cutAt hcut
      obtain ⟨offsets, hoffsets, hlines⟩ :=
        ih rest.length (by simp only [List.length_append, List.length_cons]; omega) (line + 1) rest rfl
      have hbound : ∀ o ∈ if isSetting setting first then [0] else [], o < first.length + 1 := by
        intro o ho
        rw [((arePlaces_first _).mem_iff o).mp ho |>.1]
        exact Nat.succ_pos _
      refine ⟨(if isSetting setting first then [0] else []) ++ offsets.map (first.length + 1 + ·),
        ((arePlaces_first _).append_map_add hbound hoffsets).congr fun o =>
          hasSettingAt_append_cons hsolid hfirst, ?_⟩
      · have hrest : offsets.map (fun o => line + 1 + countChar '\n' (rest.take o)) =
            offsets.map ((fun o => line + countChar '\n' ((first ++ '\n' :: rest).take o)) ∘
              (first.length + 1 + ·)) := by
          refine List.map_congr_left fun o _ => ?_
          simp only [Function.comp_apply, countChar_take_first hfirst]
          omega
        rw [splitAtChar_append_cons, splitAtChar_eq_singleton hfirst, List.singleton_append,
          List.zipIdx_cons, List.map_append, List.map_map, List.filterMap_cons, ← hrest, ← hlines]
        by_cases hsetting : isSetting setting first = true
        · simp [hsetting, countChar]
        · simp [hsetting]

end Pieces

/-! ## Pieces of a template -/

/-- A piece of the text at the place `i` that consists of the setting stands at an offset of
the whole template, the spans of the tokens being given. -/
def SettingStandsIn (setting : List Char) (tokens : List Token) (spans : List (List Char))
    (i offset : Nat) : Prop :=
  ∃ content line o, tokens[i]? = some (.text content line) ∧
    HasSettingAt setting content.toList o ∧ offset = (spans.take i).flatten.length + o

/-- The lines of a token that consist of the setting. -/
def linesOfToken (setting : String) : Token → List Nat
  | .text content line => settingLines setting line content
  | _ => []

section Tokens

variable {text setting : String} {tokens : List Token} {spans : List (List Char)}
  {tail : List Char} {i line : Nat} {content : String}

/-- The line feeds before an offset in a text are those before the text and those in it. -/
theorem line_of_offset (hspans : AreSpans text tokens spans tail)
    (ht : tokens[i]? = some (.text content line)) {o : Nat} (ho : o ≤ content.toList.length) :
    1 + countChar '\n' (text.toList.take ((spans.take i).flatten.length + o)) =
      line + countChar '\n' (content.toList.take o) := by
  obtain ⟨span, hspan, rfl, -⟩ := hspans.exists_span ht
  have hline : line = 1 + countChar '\n' (spans.take i).flatten := hspans.line_at i _ ht
  have htext : text.toList = (spans.take i).flatten ++
      (content.toList ++ ((spans.drop (i + 1)).flatten ++ tail)) := by
    have hdrop : spans.drop i = content.toList :: spans.drop (i + 1) := by
      obtain ⟨hi, hget⟩ := List.getElem?_eq_some_iff.mp hspan
      rw [List.drop_eq_getElem_cons hi, hget]
    have hflatten := congrArg List.flatten (List.take_append_drop i spans)
    rw [List.flatten_append, hdrop, List.flatten_cons] at hflatten
    rw [hspans.covers, ← hflatten]
    simp only [List.append_assoc]
  rw [htext, List.take_length_add_append, List.take_append_of_le_length ho, hline]
  simp only [countChar, List.count_append]
  omega

/-- The settings of one token, by their offsets from where it starts. -/
theorem exists_offsets_linesOfToken (hsolid : IsSolid setting.toList)
    (hspans : AreSpans text tokens spans tail) {t : Token} (ht : tokens[i]? = some t) :
    ∃ offsets, ArePlaces (fun o => SettingStandsIn setting.toList tokens spans i
        ((spans.take i).flatten.length + o)) offsets ∧
      linesOfToken setting t = offsets.map (fun o =>
        1 + countChar '\n' (text.toList.take ((spans.take i).flatten.length + o))) ∧
      ∀ o ∈ offsets, (spans.take i).flatten.length + o < (spans.take (i + 1)).flatten.length := by
  -- only a token of text is looked into, and its span is its text
  obtain ⟨span, hspan, hspan_t⟩ := hspans.exists_span ht
  cases t with
  | text content line =>
    obtain rfl := hspan_t.1
    have hlength : (spans.take (i + 1)).flatten.length =
        (spans.take i).flatten.length + content.toList.length := by
      rw [List.take_add_one, hspan, Option.toList_some, List.flatten_append, List.length_append,
        List.flatten_singleton]
    obtain ⟨offsets, hoffsets, hlines⟩ := exists_offsets_settingLines hsolid line content
    have hinside : ∀ o ∈ offsets, o < content.toList.length :=
      fun o ho => ((hoffsets.mem_iff o).mp ho).lt_length hsolid
    refine ⟨offsets, hoffsets.congr fun o => ?_, ?_, fun o ho => ?_⟩
    · constructor
      · rintro ⟨content', line', o', ht', h, ho⟩
        rw [ht] at ht'
        cases ht'
        rwa [Nat.add_left_cancel ho]
      · exact fun h => ⟨content, line, o, ht, h, rfl⟩
    · refine hlines.trans (List.map_congr_left fun o ho => ?_)
      exact (line_of_offset hspans ht (Nat.le_of_lt (hinside o ho))).symm
    · rw [hlength]
      exact Nat.add_lt_add_left (hinside o ho) _
  | action | comment =>
    refine ⟨[], ⟨.nil, fun o => iff_of_false List.not_mem_nil ?_⟩, rfl, List.forall_mem_nil _⟩
    rintro ⟨content, line, o', ht', -⟩
    rw [ht] at ht'
    cases ht'

/-- **The settings of a template**, by their offsets in it. The induction is on the tokens
that have been passed, the offsets in which are all before the next token. -/
theorem exists_offsets_of_areSpans (hsolid : IsSolid setting.toList)
    (hspans : AreSpans text tokens spans tail) {n : Nat} (hn : n ≤ tokens.length) :
    ∃ offsets, ArePlaces (fun o => ∃ i < n, SettingStandsIn setting.toList tokens spans i o)
        offsets ∧
      (tokens.take n).flatMap (linesOfToken setting) =
        offsets.map (fun o => 1 + countChar '\n' (text.toList.take o)) ∧
      ∀ o ∈ offsets, o < (spans.take n).flatten.length := by
  induction n with
  | zero =>
    refine ⟨[], ⟨.nil, fun o => iff_of_false List.not_mem_nil ?_⟩, rfl, List.forall_mem_nil _⟩
    rintro ⟨i, hi, -⟩
    exact Nat.not_lt_zero i hi
  | succ n ih =>
    obtain ⟨offsets, hoffsets, hlines, hbound⟩ := ih (by omega)
    obtain ⟨t, ht⟩ : ∃ t, tokens[n]? = some t := ⟨tokens[n], List.getElem?_eq_getElem hn⟩
    obtain ⟨more, hmore, hmoreLines, hmoreBound⟩ := exists_offsets_linesOfToken hsolid hspans ht
    refine ⟨offsets ++ more.map ((spans.take n).flatten.length + ·),
      (hoffsets.append_map_add hbound hmore).congr fun o => ?_, ?_, fun o ho => ?_⟩
    · constructor
      · rintro ⟨i, hi, h⟩
        rcases Nat.lt_succ_iff_lt_or_eq.mp hi with hi | rfl
        · exact .inl ⟨i, hi, h⟩
        · obtain ⟨content, line, o', ht', hat, rfl⟩ := h
          exact .inr ⟨o', rfl, content, line, o', ht', hat, rfl⟩
      · rintro (⟨i, hi, h⟩ | ⟨o', rfl, h⟩)
        · exact ⟨i, Nat.lt_succ_of_lt hi, h⟩
        · exact ⟨n, Nat.lt_succ_self n, h⟩
    · rw [List.take_add_one, ht, Option.toList_some, List.flatMap_append, hlines,
        List.flatMap_singleton, hmoreLines, List.map_append, List.map_map]
      rfl
    · rcases List.mem_append.mp ho with ho | ho
      · refine Nat.lt_of_lt_of_le (hbound o ho) ?_
        rw [List.take_add_one, List.flatten_append, List.length_append]
        exact Nat.le_add_right _ _
      · obtain ⟨o', ho', rfl⟩ := List.mem_map.mp ho
        exact hmoreBound o' ho'

end Tokens

/-! ## The rules -/

/-- A rule on a setting: its code and severity, the setting, and what it says. -/
structure SettingRule where
  code : String
  severity : Severity
  setting : String
  message : String

/-- The rules on settings. -/
def settingRules : List SettingRule := [
  ⟨"HL4002", .error, "privileged: true", "Container is configured with privileged: true"⟩,
  ⟨"HL4004", .warning, "hostNetwork: true",
    "Pod uses host network. This bypasses network policies"⟩]

/-- The run of a rule on a setting goes from token to token. -/
theorem trace_literalSetting (setting message : String) (tokens : List Token) :
    ∃ t, (literalSetting setting message).trace (tokens.map fun t => (t.line, t)) = .ok t ∧
      t.notes = (tokens.flatMap (linesOfToken setting)).map fun n => ⟨n, some message, none⟩ := by
  refine ⟨_, Checker.trace_ofStep_unit _ _, ?_⟩
  rw [Trace.notes, List.append_nil, List.map_map, ← List.flatMap_def, List.map_flatMap]
  refine List.flatMap_congr fun t _ => ?_
  cases t <;> rfl

/-- No setting begins or ends with a blank, nor begins with a dash. -/
theorem isSolid_of_mem_settingRules : ∀ r ∈ settingRules, IsSolid r.setting.toList := by
  unfold settingRules
  simp only [List.forall_mem_cons, List.not_mem_nil, false_imp_iff, implies_true, and_true]
  exact ⟨⟨⟨_, _, rfl, by decide, by decide⟩, "privileged: tru".toList, 'e', by decide, by decide⟩,
    ⟨_, _, rfl, by decide, by decide⟩, "hostNetwork: tru".toList, 'e', by decide, by decide⟩

/-- The rules on settings are among those that are bundled. -/
theorem rules_narrow_settingRules : ∀ r ∈ settingRules, ∃ rule : Rule,
    (Catalogue.bundled.subset [r.code]).rules = [rule] ∧ rule.code = r.code ∧
      rule.severity = r.severity ∧ rule.fixable = false ∧
      rule.check = follow (literalSetting r.setting r.message) := by
  unfold settingRules
  simp only [List.forall_mem_cons, List.not_mem_nil, false_imp_iff, implies_true, and_true]
  exact ⟨⟨_, rfl, rfl, rfl, rfl, rfl⟩, ⟨_, rfl, rfl, rfl, rfl, rfl⟩⟩

end ContainerLint.Chart

namespace ContainerLint.Linter

open ContainerLint.Text ContainerLint.Template ContainerLint.Chart

/-- **What a linter with one rule for tokens finds in a template.** -/
theorem templateFailures_of_rules {l : Linter} {rule : Rule}
    {run : RuleOptions → List (Nat × Token) → Except Stop Trace} {d : Document} {t : Trace}
    (hrules : l.catalogue.rules = [rule]) (hcheck : rule.check = .tokens run)
    (hactive : l.isActive rule = true)
    (hrun : run (l.optionsOf rule) (d.tokens.map fun token => (token.line, token)) = .ok t) :
    l.templateFailures d = .ok (t.notes.map (rule.failure d.path)) := by
  unfold templateFailures
  rw [hrules]
  refine bind_eq_ok_iff.mpr ⟨[_], mapM_eq_ok_iff.mpr (.cons ?_ .nil),
    congrArg Except.ok List.flatten_singleton⟩
  rw [hcheck]
  dsimp only
  rw [if_pos hactive, hrun]

/-- **Settings that are written out are reported at their lines.** In the text of a template,
each piece between line feeds of each text token that consists of the setting, with a dash
before it perhaps and spaces and tabs, makes one failure of the rule on the setting, and there
are no others. Its line is one more than the line feeds before the piece in the text of the
whole template, and the failures are in the order of the pieces. -/
theorem settings_reported (s : Settings) (text path : String) {r : SettingRule}
    (hr : r ∈ settingRules) (hon : s.disables r.code = false) :
    ∃ spans tail, AreSpans text (Document.ofText text path).tokens spans tail ∧
      ∃ offsets found, ArePlaces (fun o => ∃ i,
          SettingStandsIn r.setting.toList (Document.ofText text path).tokens spans i o) offsets ∧
        (Linter.mk Catalogue.bundled s).templateFailures (Document.ofText text path) = .ok found ∧
        Failure.only [r.code] found = offsets.map fun o =>
          { code := r.code, severity := r.severity, message := r.message, file := path
            line := 1 + countChar '\n' (text.toList.take o) } := by
  obtain ⟨spans, tail, hspans⟩ := exists_areSpans text path
  obtain ⟨offsets, ⟨hincreasing, hmem⟩, hlines, -⟩ :=
    exists_offsets_of_areSpans (isSolid_of_mem_settingRules r hr) hspans (Nat.le_refl _)
  obtain ⟨found, hfound⟩ := exists_templateFailures_bundled s (Document.ofText text path)
  refine ⟨spans, tail, hspans, offsets, found, ⟨hincreasing, fun o => (hmem o).trans ?_⟩, hfound, ?_⟩
  · constructor
    · rintro ⟨i, -, h⟩
      exact ⟨i, h⟩
    · rintro ⟨i, h⟩
      obtain ⟨content, line, o', ht, -⟩ := id h
      exact ⟨i, (List.getElem?_eq_some_iff.mp ht).1, h⟩
  · -- the linter with this rule alone finds what all rules find under its code
    obtain ⟨rule, hrules, hcode, hseverity, hfixable, hcheck⟩ := rules_narrow_settingRules r hr
    obtain ⟨t, ht, hnotes⟩ :=
      trace_literalSetting r.setting r.message (Document.ofText text path).tokens
    have hactive : ((Linter.mk Catalogue.bundled s).narrow [r.code]).isActive rule = true := by
      rw [isActive, hcode]
      exact congrArg not hon
    have halone := templateFailures_of_rules (d := Document.ofText text path) hrules hcheck hactive ht
    rw [templateFailures_narrow hfound] at halone
    rw [Except.ok.inj halone, hnotes, ← List.take_length (l := (Document.ofText text path).tokens),
      hlines, List.map_map, List.map_map]
    refine List.map_congr_left fun o _ => ?_
    simp only [Function.comp_apply, RuleInfo.failure, hcode, hseverity, hfixable]
    rfl

/-- A template with a setting before a comment, behind one, and behind an action. -/
def settingsAround : String :=
  "a: \x7b\x7b b \x7d\x7d\n  - privileged: true\t\x7b\x7b/* c\n*/\x7d\x7dprivileged: true\n" ++
    "\x7b\x7b d \x7d\x7d privileged: true"

theorem settings_reported_settingsAround : ({} : Settings).disables "HL4002" = false ∧
    ∃ spans tail offsets,
      AreSpans settingsAround (Document.ofText settingsAround "t.yaml").tokens spans tail ∧
      ArePlaces (fun o => ∃ i, SettingStandsIn "privileged: true".toList
        (Document.ofText settingsAround "t.yaml").tokens spans i o) offsets ∧
      offsets.map (fun o => (1 + countChar '\n' (settingsAround.toList.take o) : Int)) =
        [2, 3, 4] := by
  refine ⟨by decide, ?_⟩
  obtain ⟨spans, tail, hspans, offsets, found, hplaces, hfound, honly⟩ :=
    settings_reported {} settingsAround "t.yaml" (r := settingRules.head (by decide))
      (List.head_mem _) (by decide)
  refine ⟨spans, tail, offsets, hspans, hplaces, ?_⟩
  have hlines : ((Linter.mk Catalogue.bundled {}).templateFailures
      (Document.ofText settingsAround "t.yaml")).map
        (fun found => (Failure.only ["HL4002"] found).map (·.line)) = .ok [2, 3, 4] := by
    decide +kernel
  rw [hfound] at hlines
  have hlines : (Failure.only ["HL4002"] found).map (·.line) = [2, 3, 4] := Except.ok.inj hlines
  exact (List.map_map.symm.trans (congrArg (List.map (·.line)) honly.symm)).trans hlines

end ContainerLint.Linter
