/-
The helpers of a file and the blocks of its template.

A helper is what stands between a `define` and its `end`. To find that `end`, the blocks that
open and close behind the `define` are counted, from nothing and for each `define` anew. The
template has one stack of open blocks instead, from its first token to its last. The two
agree: the body of a helper goes up to the `end` that takes the entry of its `define` off the
stack, whatever lies below that entry, and up to the last token if it is never taken off.

The count is that of the entries above the one of the `define`. One token moves the count and
the stack alike (`step_or_closes`), and a run of tokens does so by induction
(`bodyTokens_cases`).
-/
import ContainerLint.Chart.Helper
import ContainerLint.Proofs.Template.Balance

namespace ContainerLint.Template

/-! ## Entries on the stack -/

/-- The blocks that are open before the token at a place, innermost first. -/
def openBefore (tokens : List Token) (n : Nat) : List (Control × Nat) :=
  ((tokens.take n).foldl Balance.step {}).opened

/-- The entry that the token at the place `i` puts on the stack stays there up to the place
`n`, on what it was put on. -/
def StaysOpen (tokens : List Token) (i : Nat) (entry : Control × Nat) (n : Nat) : Prop :=
  ∀ m, i < m → m ≤ n → entry :: openBefore tokens i <:+ openBefore tokens m

/-- The `end` at the place `j` takes the entry of the token at the place `i` off the stack. -/
structure ClosesBlock (tokens : List Token) (i : Nat) (entry : Control × Nat) (j : Nat) :
    Prop where
  later : i < j
  is_end : ∃ t, tokens[j]? = some t ∧ t.control? = some .endBlock
  stays : StaysOpen tokens i entry j
  taken : openBefore tokens (j + 1) = openBefore tokens i

section Stack

variable {tokens : List Token} {i j n : Nat} {entry : Control × Nat}

/-- An entry that was taken off is not there later. -/
theorem not_staysOpen_of_taken (hij : i < j) (htaken : openBefore tokens j = openBefore tokens i)
    (hjn : j ≤ n) : ¬StaysOpen tokens i entry n := by
  intro hstays
  have hle := (hstays j hij hjn).length_le
  rw [htaken, List.length_cons] at hle
  omega

/-- An entry is taken off by one `end`. -/
theorem ClosesBlock.unique {k : Nat} (hj : ClosesBlock tokens i entry j)
    (hk : ClosesBlock tokens i entry k) : j = k := by
  rcases Nat.lt_trichotomy j k with hlt | heq | hgt
  · exact absurd hk.stays (not_staysOpen_of_taken (Nat.lt_succ_of_lt hj.later) hj.taken hlt)
  · exact heq
  · exact absurd hj.stays (not_staysOpen_of_taken (Nat.lt_succ_of_lt hk.later) hk.taken hgt)

/-- An entry that is taken off is not there at the end. -/
theorem ClosesBlock.not_staysOpen (hj : ClosesBlock tokens i entry j) :
    ¬StaysOpen tokens i entry tokens.length := by
  obtain ⟨t, ht, -⟩ := hj.is_end
  exact not_staysOpen_of_taken (Nat.lt_succ_of_lt hj.later) hj.taken
    (List.getElem?_eq_some_iff.mp ht).1

/-- An entry that stays to the end is among the blocks that are never closed, behind those
that were open before it. -/
theorem StaysOpen.prefix_unclosedBlocks {d : Document} (hi : i < d.tokens.length)
    (h : StaysOpen d.tokens i entry d.tokens.length) :
    (openBefore d.tokens i).reverse ++ [entry] <+: d.unclosedBlocks := by
  have hlast : openBefore d.tokens d.tokens.length = d.balance.opened := by
    rw [openBefore, List.take_length, Document.balance]
  have hsuffix := h d.tokens.length hi (Nat.le_refl _)
  rw [hlast] at hsuffix
  rw [← List.reverse_cons]
  exact List.reverse_prefix.mpr hsuffix

/-- The stack behind the token at a place, some tokens further on. -/
theorem openBefore_add {t : Token} (ht : tokens[i]? = some t) (m : Nat) :
    openBefore tokens (i + 1 + m) =
      (((tokens.drop (i + 1)).take m).foldl Balance.step
        (((tokens.take i).foldl Balance.step {}).step t)).opened := by
  rw [openBefore, List.take_add, List.take_add_one, ht, Option.toList_some, List.foldl_append,
    List.foldl_append, List.foldl_cons, List.foldl_nil]

end Stack

end ContainerLint.Template

namespace ContainerLint.Chart

open ContainerLint.Template

/-! ## The count and the stack -/

section Count

variable {b : Balance} {entry : Control × Nat} {below inner keep : List (Control × Nat)}

/-- **One token moves the count and the stack alike**, unless it is an `end` and nothing lies
above the entries that are kept. -/
theorem step_or_closes (h : b.opened = inner ++ keep) (t : Token) :
    inner = [] ∧ t.control? = some .endBlock ∨
      ∃ inner', (b.step t).opened = inner' ++ keep ∧
        ∀ ts, bodyTokens inner.length (t :: ts) = t :: bodyTokens inner'.length ts := by
  cases hcontrol : t.control? with
  | none => exact .inr ⟨inner, by simp [Balance.step, hcontrol, h], by simp [bodyTokens, hcontrol]⟩
  | some kind =>
    by_cases hend : kind = .endBlock
    · subst hend
      cases inner with
      | nil => exact .inl ⟨rfl, rfl⟩
      | cons top inner =>
        exact .inr ⟨inner, by simp [Balance.step, hcontrol, h], by simp [bodyTokens, hcontrol]⟩
    · -- any other kind opens a block or does nothing
      refine .inr ⟨if kind.startsBlock then (kind, t.line) :: inner else inner, ?_, ?_⟩
      · cases kind <;> simp_all [Balance.step, Control.startsBlock]
      · cases kind <;> simp_all [bodyTokens, Control.startsBlock]

/-- **The tokens of a body keep the entry they stand under**, and the first token after them,
if there is one, is the `end` that takes it off. -/
theorem bodyTokens_cases (after : List Token) (h : b.opened = inner ++ entry :: below) :
    ∃ back, after = bodyTokens inner.length after ++ back ∧
      (∀ m ≤ (bodyTokens inner.length after).length,
        entry :: below <:+ ((after.take m).foldl Balance.step b).opened) ∧
      (back = [] ∨ ∃ t back', back = t :: back' ∧ t.control? = some .endBlock ∧
        ((bodyTokens inner.length after ++ [t]).foldl Balance.step b).opened = below) := by
  have hhere : entry :: below <:+ b.opened := ⟨inner, h.symm⟩
  induction after generalizing b inner with
  | nil => exact ⟨[], rfl, fun m _ => by rwa [List.take_nil], .inl rfl⟩
  | cons t after ih =>
    -- the token ends the body, or the count and the stack go on alike
    rcases step_or_closes h t with ⟨rfl, hend⟩ | ⟨inner', hstep, hbody⟩
    · have hnone : bodyTokens 0 (t :: after) = [] := by simp [bodyTokens, hend]
      refine ⟨t :: after, ?_, ?_, .inr ⟨t, after, rfl, hend, ?_⟩⟩
      · rw [List.length_nil, hnone, List.nil_append]
      · intro m hm
        rw [List.length_nil, hnone, List.length_nil, Nat.le_zero] at hm
        rwa [hm]
      · rw [List.length_nil, hnone]
        simp [Balance.step, hend, h]
    · obtain ⟨back, hsplit, hkept, hback⟩ := ih hstep ⟨inner', hstep.symm⟩
      rw [hbody]
      refine ⟨back, by rw [List.cons_append, ← hsplit], ?_, hback⟩
      intro m hm
      cases m with
      | zero => exact hhere
      | succ m => exact hkept m (Nat.le_of_succ_le_succ hm)

end Count

/-! ## The helper of a `define` -/

/-- Some tokens as text. -/
def renderAll (tokens : List Token) : String :=
  String.join (tokens.map Token.render)

/-- The token at the place is a `define` with a name. -/
def IsNamedDefine (tokens : List Token) (i : Nat) : Prop :=
  ∃ t, tokens[i]? = some t ∧ t.control? = some .define ∧ (quotedName? t.content).isSome = true

/-- The token at the place is a `define` with the helper's name and line. -/
def IsDefinedAt (tokens : List Token) (i : Nat) (h : Helper) : Prop :=
  ∃ t, tokens[i]? = some t ∧ t.control? = some .define ∧
    quotedName? t.content = some h.name ∧ t.line = h.line

/-- The helper is that of the `define` at the place. -/
structure IsHelperOf (d : Document) (i : Nat) (h : Helper) : Prop where
  defined : IsDefinedAt d.tokens i h
  /-- An `end` takes the entry of the `define` off the stack, or it is among the blocks that
  are never closed. -/
  ends : (∃ j, ClosesBlock d.tokens i (.define, h.line) j) ∨
    StaysOpen d.tokens i (.define, h.line) d.tokens.length ∧
      (openBefore d.tokens i).reverse ++ [(.define, h.line)] <+: d.unclosedBlocks
  /-- Up to such an `end`, all tokens are in the content. -/
  content_of_closes : ∀ j, ClosesBlock d.tokens i (.define, h.line) j →
    h.content = renderAll ((d.tokens.take j).drop (i + 1))
  /-- Where there is none, all the tokens that follow are. -/
  content_of_staysOpen : StaysOpen d.tokens i (.define, h.line) d.tokens.length →
    h.content = renderAll (d.tokens.drop (i + 1))

section Places

variable {tokens : List Token} {i : Nat} {t : Token} {h : Helper}

/-- What a token makes a helper of. -/
theorem helperAt?_eq_some_iff {before after : List Token} :
    helperAt? before t after = some h ↔
      t.control? = some .define ∧ quotedName? t.content = some h.name ∧ t.line = h.line ∧
        h.content = renderAll (bodyTokens 0 after) ∧
        h.description = descriptionBefore t.line before := by
  unfold helperAt?
  split
  next hdefine =>
    rw [Option.map_eq_some_iff]
    constructor
    · rintro ⟨name, hname, rfl⟩
      exact ⟨hdefine, hname, rfl, rfl, rfl⟩
    · rintro ⟨-, hname, hline, hcontent, hdescription⟩
      refine ⟨h.name, hname, ?_⟩
      rw [hline] at hdescription ⊢
      exact (Helper.mk.injEq ..).mpr ⟨rfl, rfl, hcontent.symm, hdescription.symm⟩
  next hother => exact iff_of_false (by simp) fun hmade => hother hmade.1

/-- A `define` with a name makes a helper, and nothing else does. -/
theorem isSome_helperAt?_iff {before after : List Token} :
    (helperAt? before t after).isSome = true ↔
      t.control? = some .define ∧ (quotedName? t.content).isSome = true := by
  unfold helperAt?
  split
  next hdefine => rw [Option.isSome_map, and_iff_right hdefine]
  next hother => exact iff_of_false Bool.false_ne_true fun hnamed => hother hnamed.1

/-- The helper is made of the token at the place, with the tokens before and after it. -/
def IsMadeAt (tokens : List Token) (i : Nat) (h : Helper) : Prop :=
  ∃ t, tokens[i]? = some t ∧
    helperAt? (tokens.take i).reverse t (tokens.drop (i + 1)) = some h

/-- **Each `define` with a name makes one helper, in order.** The induction is on the tokens
that are left; those before them are the places that have been passed. -/
theorem exists_places_helpersFrom (before ts : List Token) :
    ∃ places : List Nat, places.Pairwise (· < ·) ∧
      (∀ i, i ∈ places ↔ before.length ≤ i ∧ IsNamedDefine (before.reverse ++ ts) i) ∧
      List.Forall₂ (IsMadeAt (before.reverse ++ ts)) places (helpersFrom before ts) := by
  induction ts generalizing before with
  | nil =>
    refine ⟨[], .nil, fun i => iff_of_false List.not_mem_nil ?_, .nil⟩
    rintro ⟨hle, t, ht, -⟩
    rw [List.append_nil, List.getElem?_eq_none (by simpa using hle)] at ht
    cases ht
  | cons t ts ih =>
    obtain ⟨places, hordered, hmem, hmade⟩ := ih (t :: before)
    have htokens : (t :: before).reverse ++ ts = before.reverse ++ t :: ts := by simp
    rw [htokens] at hmem hmade
    have hhere : (before.reverse ++ t :: ts)[before.length]? = some t := by simp
    have hnamed : IsNamedDefine (before.reverse ++ t :: ts) before.length ↔
        (helperAt? before t ts).isSome = true := by
      rw [isSome_helperAt?_iff, IsNamedDefine, hhere]
      simp only [Option.some.injEq, exists_eq_left']
    -- a place from here on is this one or a later one
    have hfrom : ∀ i, before.length ≤ i ↔ i = before.length ∨ (t :: before).length ≤ i := by
      intro i
      rw [List.length_cons]
      omega
    rw [helpersFrom]
    cases hhelper : helperAt? before t ts with
    | none =>
      rw [hhelper] at hnamed
      refine ⟨places, hordered, fun i => ?_, hmade⟩
      rw [hmem, hfrom i, or_and_right, or_iff_right]
      rintro ⟨rfl, hi⟩
      exact Bool.false_ne_true (hnamed.mp hi)
    | some h =>
      rw [hhelper] at hnamed
      refine ⟨before.length :: places, List.pairwise_cons.mpr ⟨fun i hi => ?_, hordered⟩,
        fun i => ?_, .cons ⟨t, hhere, ?_⟩ hmade⟩
      · exact ((hmem i).mp hi).1
      · rw [List.mem_cons, hmem, hfrom i, or_and_right]
        refine or_congr_left (iff_self_and.mpr ?_)
        rintro rfl
        exact hnamed.mpr rfl
      · rwa [List.take_left' List.length_reverse, List.reverse_reverse, ← htokens,
          List.drop_left' (by simp)]

/-- The helpers of some tokens are made at the places of the `define`s with a name. -/
theorem exists_arePlaces_helpersFrom (tokens : List Token) :
    ∃ places, ArePlaces (IsNamedDefine tokens) places ∧
      List.Forall₂ (IsMadeAt tokens) places (helpersFrom [] tokens) := by
  obtain ⟨places, hordered, hmem, hmade⟩ := exists_places_helpersFrom [] tokens
  refine ⟨places, ⟨hordered, fun i => ?_⟩, hmade⟩
  simpa using hmem i

/-- **The body of a `define` ends where the stack says**: at the `end` that takes its entry
off, or with the last token if none does. -/
theorem bodyTokens_zero_cases (ht : tokens[i]? = some t) (hdefine : t.control? = some .define) :
    (∃ j, ClosesBlock tokens i (.define, t.line) j ∧
        bodyTokens 0 (tokens.drop (i + 1)) = (tokens.take j).drop (i + 1)) ∨
      StaysOpen tokens i (.define, t.line) tokens.length ∧
        bodyTokens 0 (tokens.drop (i + 1)) = tokens.drop (i + 1) := by
  -- behind the `define`, its entry lies on what was open before, and nothing on it
  have hopened : (((tokens.take i).foldl Balance.step {}).step t).opened =
      [] ++ (Control.define, t.line) :: openBefore tokens i := by
    simp [Balance.step, hdefine, Control.startsBlock, openBefore]
  obtain ⟨back, hsplit, hkept, hback⟩ := bodyTokens_cases (tokens.drop (i + 1)) hopened
  rw [List.length_nil] at hsplit hkept hback
  generalize bodyTokens 0 (tokens.drop (i + 1)) = body at hsplit hkept hback ⊢
  have hstays : StaysOpen tokens i (.define, t.line) (i + 1 + body.length) := by
    intro m him hm
    obtain ⟨k, rfl⟩ := Nat.exists_eq_add_of_le him
    rw [openBefore_add ht]
    exact hkept k (by omega)
  rcases hback with rfl | ⟨last, back, rfl, hend, htaken⟩
  · have hlength : tokens.length = i + 1 + body.length := by
      have hi := (List.getElem?_eq_some_iff.mp ht).1
      have hdrop := congrArg List.length hsplit
      rw [List.append_nil, List.length_drop] at hdrop
      omega
    rw [List.append_nil] at hsplit
    exact .inr ⟨hlength ▸ hstays, hsplit.symm⟩
  · refine .inl ⟨i + 1 + body.length, ⟨by omega, ⟨last, ?_, hend⟩, hstays, ?_⟩, ?_⟩
    · rw [← List.getElem?_drop, hsplit]
      simp
    · rw [Nat.add_assoc (i + 1), openBefore_add ht, hsplit, List.take_length_add_append,
        List.take_succ_cons, List.take_zero, htaken]
    · rw [List.drop_take, hsplit]
      simp

end Places

/-- **The helper that is made at a place is that of the `define` there.** -/
theorem isHelperOf_of_isMadeAt {d : Document} {i : Nat} {h : Helper}
    (hmade : IsMadeAt d.tokens i h) : IsHelperOf d i h := by
  obtain ⟨t, ht, hhelper⟩ := hmade
  obtain ⟨hdefine, hname, hline, hcontent, -⟩ := helperAt?_eq_some_iff.mp hhelper
  have hi : i < d.tokens.length := (List.getElem?_eq_some_iff.mp ht).1
  have hdefined : IsDefinedAt d.tokens i h := ⟨t, ht, hdefine, hname, hline⟩
  rcases bodyTokens_zero_cases ht hdefine with ⟨j, hcloses, hbody⟩ | ⟨hstays, hbody⟩
  · rw [hline] at hcloses
    refine ⟨hdefined, .inl ⟨j, hcloses⟩, fun k hk => ?_, fun hstays => ?_⟩
    · rw [hcontent, hbody, hcloses.unique hk]
    · exact absurd hstays hcloses.not_staysOpen
  · rw [hline] at hstays
    refine ⟨hdefined, .inr ⟨hstays, hstays.prefix_unclosedBlocks hi⟩, fun k hk => ?_,
      fun _ => ?_⟩
    · exact absurd hstays hk.not_staysOpen
    · rw [hcontent, hbody]

/-! ## Names -/

/-- The names of helpers are those of the `define`s that have one. -/
theorem mem_names_helpersFrom_iff {before ts : List Token} {name : String} :
    name ∈ (helpersFrom before ts).map (·.name) ↔
      ∃ t ∈ ts, t.control? = some .define ∧ quotedName? t.content = some name := by
  induction ts generalizing before with
  | nil => simp [helpersFrom]
  | cons t ts ih =>
    rw [helpersFrom, List.map_append, List.mem_append, ih, List.exists_mem_cons_iff]
    refine or_congr_left ?_
    simp only [List.mem_map, Option.mem_toList, helperAt?_eq_some_iff]
    constructor
    · rintro ⟨h, ⟨hdefine, hname, -⟩, rfl⟩
      exact ⟨hdefine, hname⟩
    · rintro ⟨hdefine, hname⟩
      exact ⟨⟨name, t.line, _, _⟩, ⟨hdefine, hname, rfl, rfl, rfl⟩, rfl⟩

/-- The names that a template gives are those of its `define`s and of its `block`s. -/
theorem mem_definedNames_iff {d : Document} {name : String} :
    name ∈ d.definedNames ↔ ∃ t ∈ d.tokens,
      (t.control? = some .define ∨ t.control? = some .block) ∧
        quotedName? t.content = some name := by
  unfold Document.definedNames Document.actions
  rw [List.mem_eraseDups, List.filterMap_filterMap, List.mem_filterMap]
  refine exists_congr fun t => and_congr_right fun _ => ?_
  cases t with
  | text | comment => simp [Token.control?]
  | action content line trimLeft trimRight =>
    simp only [Option.bind_some, Token.control?, Token.content]
    cases Control.classify? content with
    | none => simp
    | some kind => cases kind <;> simp

/-- **The helpers of a file agree with the blocks of its template**, which is that of the whole
text. There is one helper for each `define` with a name, in order. Its content is what stands
between that `define` and the `end` that takes its entry off the stack of open blocks, or all
that follows where the entry is among those never closed. And the names that the template
gives are those of the helpers and of the `block`s. -/
theorem HelperFile.helpers_of_blocks (text path : String) :
    let f := HelperFile.ofText text path
    f.template = Document.ofText text path ∧
    (∃ places, ArePlaces (IsNamedDefine f.template.tokens) places ∧
      List.Forall₂ (IsHelperOf f.template) places f.helpers) ∧
    ∀ name, name ∈ f.template.definedNames ↔ name ∈ f.names ∨
      ∃ t ∈ f.template.tokens, t.control? = some .block ∧ quotedName? t.content = some name := by
  intro f
  obtain ⟨places, hplaces, hmade⟩ := exists_arePlaces_helpersFrom f.template.tokens
  refine ⟨rfl, ⟨places, hplaces, hmade.imp fun i h => isHelperOf_of_isMadeAt⟩, fun name => ?_⟩
  have hnames : name ∈ f.names ↔ ∃ t ∈ f.template.tokens,
      t.control? = some .define ∧ quotedName? t.content = some name := mem_names_helpersFrom_iff
  rw [hnames, mem_definedNames_iff, ← exists_or]
  simp only [or_and_right, and_or_left]

/-- A file with a `define` inside another, and with one that is never closed. -/
def nestedDefines : String :=
  "\x7b\x7b define \"a\" \x7d\x7dx\x7b\x7b define \"b\" \x7d\x7dy\x7b\x7b end \x7d\x7dz" ++
    "\x7b\x7b end \x7d\x7d\n\x7b\x7b define \"c\" \x7d\x7d" ++
    "\x7b\x7b if .v \x7d\x7dw\x7b\x7b end \x7d\x7d"

/-- A `define` inside another ends at its own `end`, and one that is never closed goes on to
the end of the file. -/
theorem HelperFile.helpers_of_nestedDefines :
    let d := Document.ofText nestedDefines "_helpers.tpl"
    let f := HelperFile.ofText nestedDefines "_helpers.tpl"
    (∃ places, ArePlaces (IsNamedDefine d.tokens) places ∧
      List.Forall₂ (IsHelperOf d) places f.helpers) ∧
    f.helpers.map (fun h => (h.name, h.line, h.content)) =
      [("a", 1, "x\x7b\x7b define \"b\" \x7d\x7dy\x7b\x7b end \x7d\x7dz"), ("b", 1, "y"),
        ("c", 2, "\x7b\x7b if .v \x7d\x7dw\x7b\x7b end \x7d\x7d")] ∧
    d.unclosedBlocks = [(.define, 2)] := by
  intro d f
  obtain ⟨htemplate, hhelpers, -⟩ := HelperFile.helpers_of_blocks nestedDefines "_helpers.tpl"
  rw [htemplate] at hhelpers
  exact ⟨hhelpers, by decide +kernel, by decide +kernel⟩

end ContainerLint.Chart
