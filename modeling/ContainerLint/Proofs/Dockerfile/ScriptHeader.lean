/-
Headers of scripts.

A RUN instruction may have its script in a heredoc. Its header is the keyword, flags and one
marker, with blanks in between. A header is read twice: for its markers, which call for the
lines below it, and for its flags, once the script has taken the marker's place. Both
readings go from left to right, and each part of the header says by itself what it gives, as
long as something follows that cannot be more of it: a blank is part of no name, word or
value.
-/
import ContainerLint.Proofs.Dockerfile.Header

namespace ContainerLint.Text

/-! ## Blanks and other classes -/

/-- What holds of the characters of a range, one by one, holds of all of the class. -/
theorem forall_of_inRanges {ranges : List (Nat × Nat)} {p : Char → Bool}
    (h : ∀ r ∈ ranges, ∀ n ∈ List.range' r.1 (r.2 + 1 - r.1), p (Char.ofNat n) = true) {c : Char}
    (hc : inRanges ranges c = true) : p c = true := by
  obtain ⟨r, hr, hle⟩ := List.any_eq_true.mp hc
  rw [Bool.and_eq_true, decide_eq_true_eq, decide_eq_true_eq] at hle
  have hmem : c.toNat ∈ List.range' r.1 (r.2 + 1 - r.1) := List.mem_range'_1.mpr (by omega)
  have hp := h r hr c.toNat hmem
  rwa [Char.ofNat_toNat] at hp

/-- Blanks have no case. -/
theorem upperChar_of_isBlank {c : Char} (hc : isBlank c = true) : upperChar c = [c] := by
  have hall : ∀ r ∈ blankRanges, ∀ n ∈ List.range' r.1 (r.2 + 1 - r.1),
      (upperChar (Char.ofNat n) == [Char.ofNat n]) = true := by decide +kernel
  have hupper := forall_of_inRanges (p := fun c => upperChar c == [c]) hall hc
  exact beq_iff_eq.mp hupper

/-- No blank is in a name. -/
theorem not_inName_of_isBlank {c : Char} (hc : isBlank c = true) :
    isWordChar c = false ∧ c.isAlpha = false := by
  have hall : ∀ r ∈ blankRanges, ∀ n ∈ List.range' r.1 (r.2 + 1 - r.1),
      (!isWordChar (Char.ofNat n) && !(Char.ofNat n).isAlpha) = true := by decide +kernel
  have hnone := forall_of_inRanges (p := fun c => !isWordChar c && !c.isAlpha) hall hc
  simpa using hnone

theorem ne_of_isBlank {c d : Char} (hc : isBlank c = true) (hd : isBlank d = false) : c ≠ d := by
  rintro rfl
  rw [hc] at hd
  cases hd

theorem takeWhile_append_cons {p : Char → Bool} {c : Char} (hc : p c = false) (a b : List Char) :
    (a ++ c :: b).takeWhile p = a.takeWhile p := by
  induction a with
  | nil => exact List.takeWhile_cons_of_neg (by simp [hc])
  | cons d a ih =>
    by_cases hd : p d = true
    · rw [List.cons_append, List.takeWhile_cons_of_pos hd, List.takeWhile_cons_of_pos hd, ih]
    · rw [List.cons_append, List.takeWhile_cons_of_neg hd, List.takeWhile_cons_of_neg hd]

end ContainerLint.Text

namespace ContainerLint.Dockerfile

open ContainerLint.Text

/-! ## Markers -/

namespace Marker

theorem isMarkerChar_of_isBlank {c : Char} (hc : isBlank c = true) : isMarkerChar c = false := by
  have hdot : c ≠ '.' := ne_of_isBlank hc (by decide)
  have hdash : c ≠ '-' := ne_of_isBlank hc (by decide)
  simp [isMarkerChar, not_inName_of_isBlank hc, hdot, hdash]

/-- A word that does not begin with a quote is read bare. -/
theorem readQuotedWord?_cons {c : Char} (hdouble : c ≠ '"') (hsingle : c ≠ '\'') (cs : List Char) :
    readQuotedWord? (c :: cs) = readWord? (c :: cs) := by
  unfold readQuotedWord?
  split
  next hcs => exact absurd (List.cons.inj hcs).1 hdouble
  next hcs => exact absurd (List.cons.inj hcs).1 hsingle
  next => rfl

/-- Two angles and no dash call for a body that keeps its tabs. -/
theorem read?_angles {cs : List Char} (h : ∀ more, cs ≠ '-' :: more) :
    read? ('<' :: '<' :: cs) =
      (readQuotedWord? cs).map fun (word, rest) => (⟨false, word⟩, rest) := by
  unfold read?
  split
  next hcs => exact absurd (List.cons.inj (List.cons.inj hcs).2).2 (h _)
  next hcs => rw [(List.cons.inj (List.cons.inj hcs).2).2]
  next hno => exact absurd rfl (hno cs)

/-- A marker begins with two angles. -/
theorem read?_eq_none {cs : List Char} (h : ¬['<', '<'] <+: cs) : read? cs = none := by
  unfold read?
  split
  next more => exact absurd ⟨'-' :: more, rfl⟩ h
  next more hmore => exact absurd ⟨more, rfl⟩ h
  next => rfl

/-- A word ends where something else stands. -/
theorem readWord?_append {word tail : List Char}
    (hword : isName (fun c => c.isAlpha || c == '_') isMarkerChar word = true)
    (htail : ∀ c ∈ tail.head?, isMarkerChar c = false) :
    readWord? (word ++ tail) = some (word, tail) := by
  obtain ⟨c, cs, rfl, hc, hcs⟩ := isName_iff.mp hword
  obtain ⟨htake, hdrop⟩ := span_append hcs htail
  rw [List.cons_append, readWord?, if_pos hc, htake, hdrop]

section Blank

variable {c : Char} (hc : isBlank c = true) (front back : List Char)

include hc

/-- A blank ends a word. -/
theorem readWord?_append_blank : readWord? (front ++ c :: back) =
    (readWord? front).map fun (word, rest) => (word, rest ++ c :: back) := by
  cases front with
  | nil =>
    have hscore : c ≠ '_' := ne_of_isBlank hc (by decide)
    simp [readWord?, not_inName_of_isBlank hc, hscore]
  | cons d front =>
    have hmarker := isMarkerChar_of_isBlank hc
    by_cases hd : (d.isAlpha || d == '_') = true
    · simp [readWord?, hd, takeWhile_append_cons hmarker, dropWhile_append_cons hmarker]
    · simp [readWord?, hd]

/-- A blank is no closing quote either. -/
theorem closeWith_append_blank {quote : Char} (hquote : isBlank quote = false) :
    readQuotedWord?.closeWith quote (front ++ c :: back) =
      (readQuotedWord?.closeWith quote front).map fun (word, rest) =>
        (word, rest ++ c :: back) := by
  unfold readQuotedWord?.closeWith
  rw [readWord?_append_blank hc]
  rcases readWord? front with _ | ⟨word, _ | ⟨d, rest⟩⟩
  · rfl
  · simp [ne_of_isBlank hc hquote]
  · by_cases hd : d = quote <;> simp [hd]

/-- Reading a word stops at a blank, and does not see what follows. -/
theorem readQuotedWord?_append_blank : readQuotedWord? (front ++ c :: back) =
    (readQuotedWord? front).map fun (word, rest) => (word, rest ++ c :: back) := by
  cases front with
  | nil =>
    have hdouble : c ≠ '"' := ne_of_isBlank hc (by decide)
    have hsingle : c ≠ '\'' := ne_of_isBlank hc (by decide)
    rw [List.nil_append, readQuotedWord?_cons hdouble hsingle]
    exact readWord?_append_blank hc [] back
  | cons d front =>
    by_cases hdouble : d = '"'
    · subst hdouble
      exact closeWith_append_blank hc front back (by decide)
    by_cases hsingle : d = '\''
    · subst hsingle
      exact closeWith_append_blank hc front back (by decide)
    rw [List.cons_append, readQuotedWord?_cons hdouble hsingle,
      readQuotedWord?_cons hdouble hsingle]
    exact readWord?_append_blank hc (d :: front) back

/-- A marker ends before a blank, so what stands behind the blank does not matter. -/
theorem read?_append_blank : read? (front ++ c :: back) =
    (read? front).map fun (m, rest) => (m, rest ++ c :: back) := by
  have hangle : c ≠ '<' := ne_of_isBlank hc (by decide)
  have hdash : c ≠ '-' := ne_of_isBlank hc (by decide)
  by_cases hfront : ['<', '<'] <+: front
  · obtain ⟨cs, rfl⟩ := hfront
    have hquoted := readQuotedWord?_append_blank hc
    -- the blank itself is no dash, so it cannot turn one kind of marker into the other
    by_cases hcs : ∃ more, cs = '-' :: more
    · obtain ⟨more, rfl⟩ := hcs
      have hread := hquoted more back
      simp only [List.cons_append, List.nil_append, read?, hread, Option.map_map]
      rfl
    · have hread := hquoted cs back
      have hhead : ∀ more, cs ++ c :: back ≠ '-' :: more := by
        intro more hmore
        cases cs with
        | nil => exact hdash (List.cons.inj hmore).1
        | cons d cs => exact hcs ⟨cs, by rw [(List.cons.inj hmore).1]⟩
      simp only [List.cons_append, List.nil_append]
      rw [read?_angles hhead, read?_angles fun more hmore => hcs ⟨more, hmore⟩, hread,
        Option.map_map, Option.map_map]
      rfl
  · have hnone : ¬['<', '<'] <+: front ++ c :: back := by
      rcases front with _ | ⟨d, _ | ⟨e, front⟩⟩
      · simp [hangle.symm]
      · simp [hangle.symm]
      · simpa using hfront
    rw [read?_eq_none hnone, read?_eq_none hfront]
    rfl

/-- Markers in front of a blank and behind it are found separately. -/
theorem findFrom_append_blank {afterAngle : Bool} {skip : Nat} (hskip : skip ≤ front.length) :
    findFrom afterAngle skip (front ++ c :: back) =
      findFrom afterAngle skip front ++ findAll back := by
  have hangle : (c == '<') = false := beq_eq_false_iff_ne.mpr (ne_of_isBlank hc (by decide))
  induction front generalizing afterAngle skip with
  | nil =>
    obtain rfl : skip = 0 := Nat.le_zero.mp hskip
    have hread : read? (c :: back) = none := read?_append_blank hc [] back
    simp [findFrom, hread, hangle, findAll]
  | cons d front ih =>
    cases skip with
    | succ skip => exact ih (Nat.le_of_succ_le_succ hskip)
    | zero =>
      have hread := read?_append_blank hc (d :: front) back
      rw [List.cons_append] at hread ⊢
      rw [findFrom, findFrom]
      by_cases hafter : afterAngle = true
      · simp only [hafter, if_true]
        exact ih (Nat.zero_le _)
      · simp only [hafter, hread]
        cases hmarker : read? (d :: front) with
        | none => simpa using ih (Nat.zero_le _)
        | some found =>
          obtain ⟨m, rest⟩ := found
          -- what is skipped is the marker, which ends in front of the blank
          have hlength : (front ++ c :: back).length - (rest ++ c :: back).length =
              front.length - rest.length := by
            simp only [List.length_append]
            omega
          simp only [Option.map_some, Bool.false_eq_true, if_false, hlength]
          rw [ih (Nat.sub_le front.length rest.length), List.cons_append]

end Blank

/-- Where there is no angle there is no marker. -/
theorem findFrom_of_not_mem {front : List Char} (h : '<' ∉ front) (back : List Char)
    {afterAngle : Bool} (hfront : front = [] → afterAngle = false) :
    findFrom afterAngle 0 (front ++ back) = findAll back := by
  induction front generalizing afterAngle with
  | nil => rw [hfront rfl, List.nil_append, findAll]
  | cons d front ih =>
    rw [List.mem_cons, not_or] at h
    have hangle : (d == '<') = false := beq_eq_false_iff_ne.mpr (Ne.symm h.1)
    have hread : read? (d :: (front ++ back)) = none := read?_eq_none (by simp [h.1])
    rw [List.cons_append, findFrom, hread, ite_self]
    dsimp only
    rw [hangle]
    exact ih h.2 fun _ => rfl

theorem findFrom_length (afterAngle : Bool) (cs : List Char) :
    findFrom afterAngle cs.length cs = [] := by
  induction cs generalizing afterAngle with
  | nil => rfl
  | cons c cs ih => exact ih _

/-- A text that is one marker and nothing else has that marker. -/
theorem findAll_of_read? {cs : List Char} {m : Marker} (h : read? cs = some (m, [])) :
    findAll cs = [m] := by
  cases cs with
  | nil => cases h
  | cons c cs => simp [findAll, findFrom, h, findFrom_length]

end Marker

/-! ## Flags -/

/-- The flags that a RUN instruction knows. -/
def runFlagNames : List String := ["mount", "network", "security"]

theorem startsFlag_of_readFlag? {cs : List Char} {f : WrittenFlag} (h : readFlag? cs = some f) :
    startsFlag cs = true := by
  unfold readFlag? at h
  split at h
  next => rfl
  next => cases h

/-- The flags are the first one and those after it. -/
theorem writtenFlags?_of_readFlag? {cs : List Char} {f : WrittenFlag} (h : readFlag? cs = some f) :
    writtenFlags? cs =
      (writtenFlags? (trimLeft f.rest)).map fun (flags, rest) => (f.text :: flags, rest) := by
  rw [writtenFlags?, if_pos (startsFlag_of_readFlag? h)]
  split
  next hnone =>
    rw [h] at hnone
    cases hnone
  next g hg =>
    obtain rfl := Option.some.inj (h.symm.trans hg)
    rfl

theorem isFlagChar_of_isBlank {c : Char} (hc : isBlank c = true) : isFlagChar c = false := by
  have hdash : c ≠ '-' := ne_of_isBlank hc (by decide)
  simp [isFlagChar, not_inName_of_isBlank hc, hdash]

namespace WrittenFlag

/-- The flag as an instruction has it. -/
def flag (f : WrittenFlag) : Flag :=
  (lower (String.ofList f.name), f.value.map String.ofList)

/-- A flag that a RUN instruction may have and that holds no heredoc marker. -/
structure IsValid (f : WrittenFlag) : Prop where
  name : isName Char.isAlpha isFlagChar f.name = true
  known : f.flag.1 ∈ runFlagNames
  value : ∀ v ∈ f.value, ∀ c ∈ v, isBlank c = false
  noMarker : Marker.findAll f.text = []

/-- A flag without a value has no angle in it. -/
theorem not_mem_text {f : WrittenFlag} (hf : f.IsValid) (hvalue : f.value = none) :
    '<' ∉ f.text := by
  obtain ⟨c, cs, hname, hc, hcs⟩ := isName_iff.mp hf.name
  intro hmem
  simp only [text, hname, hvalue, List.append_nil, List.mem_cons] at hmem
  rcases hmem with hmem | hmem | rfl | hmem
  · cases hmem
  · cases hmem
  · cases hc
  · exact absurd (hcs _ hmem) (by decide)

/-- A flag is read up to the next blank, or up to a marker if it has no value. -/
theorem readFlag?_append {f : WrittenFlag} (hf : f.IsValid) {tail : List Char}
    (htail : ∀ c ∈ tail.head?, isBlank c = true ∨ f.value = none ∧ c = '<') :
    readFlag? (f.text ++ tail) = some { f with rest := tail } := by
  obtain ⟨c, cs, hname, hc, hcs⟩ := isName_iff.mp hf.name
  have hvalue := hf.value
  obtain ⟨name, value, rest⟩ := f
  dsimp only at hname hvalue htail
  subst hname
  cases value with
  | none =>
    -- without a value the flag ends at a blank, or at the angles of the marker
    have hstop : ∀ d ∈ tail.head?, isFlagChar d = false ∧ d ≠ '=' := by
      intro d hd
      rcases htail d hd with hblank | ⟨-, rfl⟩
      · exact ⟨isFlagChar_of_isBlank hblank, ne_of_isBlank hblank (by decide)⟩
      · exact ⟨by decide, by decide⟩
    obtain ⟨htake, hdrop⟩ := span_append hcs fun d hd => (hstop d hd).1
    simp only [text, List.cons_append, List.append_assoc, List.nil_append, readFlag?, hc, if_true,
      htake, hdrop]
    split
    next back => exact absurd rfl (hstop '=' rfl).2
    next => rfl
  | some v =>
    have hstop : ∀ d ∈ tail.head?, (!isBlank d) = false := by
      intro d hd
      rcases htail d hd with hblank | ⟨hnone, -⟩
      · rw [hblank]
        rfl
      · cases hnone
    obtain ⟨htake, hdrop⟩ :=
      @span_append isFlagChar cs ('=' :: (v ++ tail)) hcs fun d hd => by cases hd; decide
    obtain ⟨htake', hdrop'⟩ :=
      @span_append (!isBlank ·) v tail (fun d hd => by rw [hvalue v rfl d hd]; rfl) hstop
    simp only [text, List.cons_append, List.append_assoc, readFlag?, hc, if_true, htake, hdrop,
      htake', hdrop']

end WrittenFlag

/-- A known flag is split off in front of the others. -/
theorem splitFlags_of_readFlag? {keyword : String} {allowed : List String} {cs : List Char}
    {f : WrittenFlag} (h : readFlag? cs = some f) (hallowed : f.flag.1 ∈ allowed) :
    splitFlags keyword allowed cs =
      (splitFlags keyword allowed (trimLeft f.rest)).map fun (flags, rest) =>
        (f.flag :: flags, rest) := by
  rw [splitFlags, if_pos (startsFlag_of_readFlag? h)]
  split
  next hnone =>
    rw [h] at hnone
    cases hnone
  next g hg =>
    obtain rfl := Option.some.inj (h.symm.trans hg)
    have hcontains : allowed.contains (lower (String.ofList f.name)) = true :=
      List.contains_iff_mem.mpr hallowed
    dsimp only
    rw [if_pos hcontains]
    cases splitFlags keyword allowed (trimLeft f.rest) <;> rfl

/-- Flags that are taken off a text leave less of it. -/
theorem ensures_shorter_splitFlags (keyword : String) (allowed : List String) (cs : List Char) :
    Ensures (fun r => r.2.length ≤ cs.length ∧ (startsFlag cs = true → r.2.length < cs.length))
      (splitFlags keyword allowed cs) := by
  fun_induction splitFlags keyword allowed cs with
  | case1 => exact .error _
  | case2 cs hstarts f hflag name hallowed hlt flags rest hrest ih =>
    have hle := (ih (flags, rest) hrest).1
    dsimp only at hle
    refine .ok ⟨?_, fun _ => ?_⟩
    · dsimp only
      omega
    · dsimp only
      omega
  | case3 => exact .error _
  | case4 => exact .error _
  | case5 cs hstarts => exact .ok ⟨Nat.le_refl _, fun h => absurd h hstarts⟩

/-- Blanks stand behind each flag. A last flag without a value can do without. -/
def AreSpaced : List WrittenFlag → Prop
  | [] => True
  | f :: flags =>
    allBlank f.rest = true ∧ (f.rest = [] → f.value = none ∧ flags = []) ∧ AreSpaced flags

/-- The text of the flags, each with the blanks behind it. -/
def spacedText (flags : List WrittenFlag) : List Char :=
  flags.flatMap fun f => f.text ++ f.rest

theorem spacedText_cons (f : WrittenFlag) (flags : List WrittenFlag) (tail : List Char) :
    spacedText (f :: flags) ++ tail = f.text ++ (f.rest ++ (spacedText flags ++ tail)) := by
  simp [spacedText]

theorem not_mem_of_allBlank {cs : List Char} (h : allBlank cs = true) {c : Char}
    (hc : isBlank c = false) : c ∉ cs := by
  intro hmem
  rw [List.all_eq_true.mp h c hmem] at hc
  cases hc

section Flags

variable {flags : List WrittenFlag} (hvalid : ∀ f ∈ flags, f.IsValid)

/-- Flags begin with a dash; after the last one comes the marker. -/
theorem head?_spacedText (flags : List WrittenFlag) (tail : List Char) :
    (spacedText flags ++ '<' :: tail).head? = some '-' ∨
      (spacedText flags ++ '<' :: tail).head? = some '<' := by
  cases flags with
  | nil => exact .inr rfl
  | cons f flags =>
    rw [spacedText_cons]
    exact .inl rfl

/-- Only the blanks before the flags are trimmed. -/
theorem trimLeft_spacedText (flags : List WrittenFlag) (tail : List Char) {blanks : List Char}
    (hblanks : allBlank blanks = true) :
    trimLeft (blanks ++ (spacedText flags ++ '<' :: tail)) = spacedText flags ++ '<' :: tail := by
  have hhead : ∀ c ∈ (spacedText flags ++ '<' :: tail).head?, isBlank c = false := by
    intro c hc
    rcases head?_spacedText flags tail with h | h
    · rw [h] at hc
      cases hc
      decide
    · rw [h] at hc
      cases hc
      decide
  exact (span_append (List.all_eq_true.mp hblanks) hhead).2

include hvalid

/-- The flags that were written are read, up to the marker. -/
theorem writtenFlags?_spacedText (hspaced : AreSpaced flags) (tail : List Char) :
    writtenFlags? (spacedText flags ++ '<' :: tail) =
      some (flags.map WrittenFlag.text, '<' :: tail) := by
  induction flags with
  | nil =>
    rw [spacedText, List.flatMap_nil, List.nil_append, writtenFlags?]
    rfl
  | cons f flags ih =>
    rw [List.forall_mem_cons] at hvalid
    obtain ⟨hblanks, hlast, hspaced⟩ := hspaced
    -- only the last flag may have nothing between it and the marker
    have htail : ∀ c ∈ (f.rest ++ (spacedText flags ++ '<' :: tail)).head?,
        isBlank c = true ∨ f.value = none ∧ c = '<' := by
      intro c hc
      cases hrest : f.rest with
      | nil =>
        obtain ⟨hvalue, rfl⟩ := hlast hrest
        rw [hrest] at hc
        exact .inr ⟨hvalue, (Option.some.inj hc).symm⟩
      | cons b blanks =>
        rw [hrest] at hc hblanks
        rw [← Option.some.inj hc]
        exact .inl (List.all_eq_true.mp hblanks b List.mem_cons_self)
    have hread := WrittenFlag.readFlag?_append hvalid.1 htail
    rw [spacedText_cons, writtenFlags?_of_readFlag? hread, trimLeft_spacedText flags tail hblanks,
      ih hvalid.2 hspaced]
    rfl

/-- The flags hold no markers, so the only ones are those behind them. -/
theorem findAll_spacedText (hspaced : AreSpaced flags) (tail : List Char) :
    Marker.findAll (spacedText flags ++ tail) = Marker.findAll tail := by
  induction flags with
  | nil => rfl
  | cons f flags ih =>
    rw [List.forall_mem_cons] at hvalid
    obtain ⟨hblanks, hlast, hspaced⟩ := hspaced
    rw [spacedText_cons]
    cases hrest : f.rest with
    | nil =>
      obtain ⟨hvalue, rfl⟩ := hlast hrest
      have hangle : '<' ∉ f.text := WrittenFlag.not_mem_text hvalid.1 hvalue
      rw [Marker.findAll, List.nil_append, Marker.findFrom_of_not_mem hangle _ fun _ => rfl]
      rfl
    | cons b blanks =>
      rw [hrest, allBlank, List.all_cons, Bool.and_eq_true] at hblanks
      -- a value may have angles, but no marker, and the blank after it keeps it so
      have hangle : '<' ∉ blanks := not_mem_of_allBlank hblanks.2 (by decide)
      rw [Marker.findAll, List.cons_append,
        Marker.findFrom_append_blank hblanks.1 _ _ (Nat.zero_le _), ← Marker.findAll,
        hvalid.1.noMarker, List.nil_append, Marker.findAll,
        Marker.findFrom_of_not_mem hangle _ fun _ => rfl]
      exact ih hvalid.2 hspaced

/-- With a script in the marker's place, the flags are read as before, and more may follow in
the script. -/
theorem splitFlags_append (keyword : String) (script : List Char) :
    splitFlags keyword runFlagNames
        (trimLeft (flags.flatMap (fun f => f.text ++ [' ']) ++ script)) =
      (splitFlags keyword runFlagNames (trimLeft script)).map fun (more, rest) =>
        (flags.map WrittenFlag.flag ++ more, rest) := by
  induction flags with
  | nil =>
    rw [List.flatMap_nil, List.nil_append]
    cases splitFlags keyword runFlagNames (trimLeft script) <;> rfl
  | cons f flags ih =>
    rw [List.forall_mem_cons] at hvalid
    have hread := @WrittenFlag.readFlag?_append f hvalid.1
      (' ' :: (flags.flatMap (fun f => f.text ++ [' ']) ++ script))
      fun c hc => .inl (by cases hc; decide)
    have hsplit : (f :: flags).flatMap (fun f => f.text ++ [' ']) ++ script =
        f.text ++ ' ' :: (flags.flatMap (fun f => f.text ++ [' ']) ++ script) := by simp
    have hleft : trimLeft (f.text ++ ' ' :: (flags.flatMap (fun f => f.text ++ [' ']) ++ script)) =
        f.text ++ ' ' :: (flags.flatMap (fun f => f.text ++ [' ']) ++ script) :=
      List.dropWhile_cons_of_neg (p := isBlank) (a := '-') (by decide)
    have hspace : ∀ cs, trimLeft (' ' :: cs) = trimLeft cs := fun cs =>
      List.dropWhile_cons_of_pos (p := isBlank) (a := ' ') (by decide)
    rw [hsplit, hleft, splitFlags_of_readFlag? hread hvalid.1.known, hspace, ih hvalid.2]
    cases splitFlags keyword runFlagNames (trimLeft script) <;> rfl

end Flags

/-! ## Headers -/

/-- The header of a script: a RUN instruction of flags and one heredoc marker. -/
structure ScriptHeader where
  keyword : List Char
  /-- The blanks behind the keyword. -/
  gap : List Char
  flags : List WrittenFlag
  /-- The mounts that the flags ask for. -/
  mounts : List Mount
  stripTabs : Bool
  /-- What stands around the word of the marker. -/
  quote : List Char
  word : List Char
  isRun : upper (String.ofList keyword) = "RUN"
  isGap : gap ≠ [] ∧ allBlank gap = true
  isValid : ∀ f ∈ flags, f.IsValid
  areSpaced : AreSpaced flags
  readMounts_eq : readMounts (flags.map WrittenFlag.flag) = .ok mounts
  isQuote : quote ∈ [[], ['"'], ['\'']]
  isWord : isName (fun c => c.isAlpha || c == '_') Marker.isMarkerChar word = true

/-- A word in capitals has no other characters, but for their case. -/
theorem of_upper_eq_run {keyword : List Char} (h : upper (String.ofList keyword) = "RUN") :
    keyword ≠ [] ∧ ∀ c ∈ keyword, isBlank c = false ∧ c ≠ '<' ∧ c ≠ '#' := by
  have hchars : keyword.flatMap upperChar = ['R', 'U', 'N'] := by
    simpa [upper] using congrArg String.toList h
  -- what has no case would be among the three letters itself
  have hkept : ∀ c ∈ keyword, upperChar c = [c] → c ∈ ['R', 'U', 'N'] := by
    intro c hc hupper
    rw [← hchars]
    exact List.mem_flatMap.mpr ⟨c, hc, by rw [hupper]; exact List.mem_singleton_self c⟩
  refine ⟨fun hnil => ?_, fun c hc => ⟨?_, ?_, ?_⟩⟩
  · rw [hnil] at hchars
    cases hchars
  · by_contra hblank
    rw [Bool.not_eq_false] at hblank
    have hmem := hkept c hc (upperChar_of_isBlank hblank)
    simp only [List.mem_cons, List.not_mem_nil, or_false] at hmem
    rcases hmem with rfl | rfl | rfl <;> cases hblank
  · rintro rfl
    exact absurd (hkept '<' hc (by decide)) (by decide)
  · rintro rfl
    exact absurd (hkept '#' hc (by decide)) (by decide)

namespace ScriptHeader

/-- The marker that calls for the script. -/
def marker (h : ScriptHeader) : Marker :=
  ⟨h.stripTabs, h.word⟩

/-- The marker as it is written. -/
def markerText (h : ScriptHeader) : List Char :=
  '<' :: '<' :: ((if h.stripTabs then ['-'] else []) ++ (h.quote ++ (h.word ++ h.quote)))

/-- The header as it is written. -/
def text (h : ScriptHeader) : List Char :=
  h.keyword ++ (h.gap ++ (spacedText h.flags ++ h.markerText))

/-- The flags that the header gives the instruction. -/
def runFlags (h : ScriptHeader) : RunFlags where
  mounts := h.mounts
  network := flagText? (h.flags.map WrittenFlag.flag) "network"
  security := flagText? (h.flags.map WrittenFlag.flag) "security"

/-- The word does not start like what may stand in front of it. -/
theorem word_ne_cons (h : ScriptHeader) {c : Char} (hc : (c.isAlpha || c == '_') = false)
    (more : List Char) : h.word ≠ c :: more := by
  obtain ⟨d, cs, hword, hd, -⟩ := isName_iff.mp h.isWord
  intro hmore
  rw [hword] at hmore
  rw [(List.cons.inj hmore).1, hc] at hd
  cases hd

/-- The word is read whether it stands bare or in quotes of either kind. -/
theorem readQuotedWord?_word (h : ScriptHeader) :
    Marker.readQuotedWord? (h.quote ++ (h.word ++ h.quote)) = some (h.word, []) := by
  have hquote := h.isQuote
  simp only [List.mem_cons, List.not_mem_nil, or_false] at hquote
  rcases hquote with hquote | hquote | hquote
  · obtain ⟨c, cs, hword, -⟩ := isName_iff.mp h.isWord
    have hdouble : c ≠ '"' := fun hc => h.word_ne_cons (by decide) cs (hc ▸ hword)
    have hsingle : c ≠ '\'' := fun hc => h.word_ne_cons (by decide) cs (hc ▸ hword)
    have hread := Marker.readWord?_append h.isWord fun c (hc : c ∈ [].head?) => by cases hc
    rw [List.append_nil, hword] at hread
    rw [hquote, List.nil_append, List.append_nil, hword,
      Marker.readQuotedWord?_cons hdouble hsingle, hread]
  · have hread := Marker.readWord?_append h.isWord fun c (hc : c ∈ ['"'].head?) => by
      cases hc
      decide
    rw [hquote]
    simp [Marker.readQuotedWord?, Marker.readQuotedWord?.closeWith, hread]
  · have hread := Marker.readWord?_append h.isWord fun c (hc : c ∈ ['\''].head?) => by
      cases hc
      decide
    rw [hquote]
    simp [Marker.readQuotedWord?, Marker.readQuotedWord?.closeWith, hread]

/-- The marker that was written is read, and nothing is left. -/
theorem read?_markerText (h : ScriptHeader) : Marker.read? h.markerText = some (h.marker, []) := by
  have hquoted := h.readQuotedWord?_word
  rw [markerText, marker]
  cases h.stripTabs with
  | true => simp [Marker.read?, hquoted]
  | false =>
    -- without a dash, nothing else may be taken for one
    have hdash : ∀ more, h.quote ++ (h.word ++ h.quote) ≠ '-' :: more := by
      intro more hmore
      have hquote := h.isQuote
      simp only [List.mem_cons, List.not_mem_nil, or_false] at hquote
      rcases hquote with hquote | hquote | hquote
      · rw [hquote, List.nil_append, List.append_nil] at hmore
        exact h.word_ne_cons (by decide) more hmore
      · rw [hquote] at hmore
        cases hmore
      · rw [hquote] at hmore
        cases hmore
    simp [Marker.read?_angles hdash, hquoted]

/-- The keyword is cut off and the flags are left, with the marker. -/
theorem cutWord_text (h : ScriptHeader) :
    cutWord h.text = some (h.keyword, spacedText h.flags ++ h.markerText) := by
  obtain ⟨hne, hkeyword⟩ := of_upper_eq_run h.isRun
  obtain ⟨b, blanks, hgap⟩ := List.exists_cons_of_ne_nil h.isGap.1
  have hblank := List.all_eq_true.mp h.isGap.2
  have hstop : ∀ c ∈ (h.gap ++ (spacedText h.flags ++ h.markerText)).head?, isBlank c = true := by
    intro c hc
    rw [hgap] at hc hblank
    rw [← Option.some.inj hc]
    exact hblank b List.mem_cons_self
  rw [text, cutWord_append hne (fun c hc => (hkeyword c hc).1) hstop, markerText,
    trimLeft_spacedText h.flags _ h.isGap.2]

/-- **The header calls for one body**, that of its marker. -/
theorem markersOf_text (h : ScriptHeader) : markersOf h.text = [h.marker] := by
  have hkeyword : '<' ∉ h.keyword ++ h.gap := by
    intro hmem
    rcases List.mem_append.mp hmem with hmem | hmem
    · exact ((of_upper_eq_run h.isRun).2 _ hmem).2.1 rfl
    · exact not_mem_of_allBlank h.isGap.2 (by decide) hmem
  have hfind : Marker.findAll h.text = [h.marker] := by
    rw [text, ← List.append_assoc, Marker.findAll,
      Marker.findFrom_of_not_mem hkeyword _ fun _ => rfl,
      findAll_spacedText h.isValid h.areSpaced, Marker.findAll_of_read? h.read?_markerText]
  simp only [markersOf, h.cutWord_text, h.isRun, hfind]
  rfl

/-- **The script takes the marker's place**, behind the keyword and the flags. -/
theorem inlineHeredoc_text (h : ScriptHeader) {body : List Char} (hbody : scriptOf body ≠ []) :
    inlineHeredoc h.text body =
      h.keyword ++ ' ' :: (h.flags.flatMap (fun f => f.text ++ [' ']) ++ scriptOf body) := by
  have hflags : writtenFlags? (spacedText h.flags ++ h.markerText) =
      some (h.flags.map WrittenFlag.text, h.markerText) :=
    writtenFlags?_spacedText h.isValid h.areSpaced _
  have hwhole : Marker.isWhole h.markerText = true := by
    rw [Marker.isWhole, h.read?_markerText]
  have hjoin : ∀ (texts : List (List Char)) (last : List Char),
      join [' '] (texts ++ [last]) = texts.flatMap (· ++ [' ']) ++ last := by
    intro texts last
    induction texts with
    | nil => rfl
    | cons t texts ih =>
      rw [List.cons_append, join_cons_of_ne_nil _ _ (by simp), ih, List.flatMap_cons,
        List.append_assoc, List.append_assoc]
      simp
  simp only [inlineHeredoc, h.cutWord_text, h.isRun, hflags, hwhole, beq_self_eq_true, if_true,
    Bool.true_and, Bool.not_eq_true', List.isEmpty_eq_false_iff.mpr hbody]
  rw [← List.cons_append, hjoin, List.flatMap_cons, List.flatMap_map]
  simp

end ScriptHeader

end ContainerLint.Dockerfile
