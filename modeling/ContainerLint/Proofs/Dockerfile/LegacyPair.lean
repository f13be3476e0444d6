/-
A key and a value with nothing but blanks between them.

Where the first word of the arguments has no equals sign, an instruction that takes pairs has one
pair: the word is its key, and the rest of the text its value. The reader looks for the first word
up to a blank of any kind, but cuts the key off at the first space. The two agree if a space is
what stands behind the word, and whatever blanks stand behind that space do no harm.

If another blank stands there, a tab for one, the reader goes on to the next space. All up to
there is the key, with the blank in it, and if there is no further space the value is empty. That
happens for no other reason (`legacyPair_read`).
-/
import ContainerLint.Proofs.Dockerfile.SingleLine

namespace ContainerLint.Dockerfile

open ContainerLint.Text

/-- The keywords of instructions that take pairs, and what they make of them. -/
def pairKeywords : List (String × (List (String × String) → Instruction)) :=
  [("ENV", .env), ("LABEL", .label)]

/-- Both keywords of pairs read them in the same way. -/
theorem reader?_of_mem_pairKeywords {keyword : String}
    {make : List (String × String) → Instruction} (h : (keyword, make) ∈ pairKeywords) :
    keyword ∈ plainKeywords ∧
      reader? keyword = some fun rest => (readPairs keyword rest).map make := by
  rcases List.mem_cons.mp h with heq | h
  · obtain ⟨rfl, rfl⟩ := Prod.mk.inj heq
    exact ⟨by decide, rfl⟩
  · obtain ⟨rfl, rfl⟩ := Prod.mk.inj (List.mem_singleton.mp h)
    exact ⟨by decide, rfl⟩

/-! ## Cutting at the first space -/

/-- The text is a key and a value: the key goes up to the first space, and the value is what stands
behind that, trimmed. Without a space all is key. -/
def IsCutAtSpace (text key value : List Char) : Prop :=
  ' ' ∉ key ∧ (text = key ∧ value = [] ∨ ∃ more, text = key ++ ' ' :: more ∧ value = trim more)

/-- Without an equals sign in the first word there is one pair, cut at a space. -/
theorem exists_readPairs_eq (keyword : String) {text first back : List Char}
    (hfirst : cutWord text = some (first, back)) (hequals : '=' ∉ first) :
    ∃ key value, readPairs keyword text = .ok [(String.ofList key, String.ofList value)] ∧
      IsCutAtSpace text key value := by
  have hno : first.contains '=' = false := by simpa using hequals
  simp only [readPairs, hfirst, hno, Bool.false_eq_true, if_false]
  cases hcut : cutAt ' ' text with
  | none => exact ⟨text, [], rfl, cutAt_eq_none_iff.mp hcut, .inl ⟨rfl, rfl⟩⟩
  | some parts =>
    obtain ⟨key, more⟩ := parts
    exact ⟨key, trim more, rfl, not_mem_of_cutAt hcut, .inr ⟨more, append_of_cutAt hcut, rfl⟩⟩

/-- **The key is the first word**, and the value what is left, exactly if nothing is left or a
space stands behind the word. -/
theorem IsCutAtSpace.eq_word_iff {text first back key value : List Char}
    (hfirst : cutWord text = some (first, back)) (hcut : IsCutAtSpace (trim text) key value) :
    key = first ∧ value = trim back ↔ trim back = [] ∨ first ++ [' '] <+: trim text := by
  obtain ⟨hkey, hparts⟩ := hcut
  -- the word has no blank in it, and so no space
  have hspace : ' ' ∉ first := by
    obtain ⟨-, -, -, -, hword, -⟩ := exists_of_cutWord hfirst
    intro hmem
    exact absurd (hword ' ' hmem) (by decide)
  constructor
  · rintro ⟨rfl, rfl⟩
    rcases hparts with ⟨-, hvalue⟩ | ⟨more, htext, -⟩
    · exact .inl hvalue
    · exact .inr ⟨more, by rw [htext, List.append_assoc]; rfl⟩
  · intro h
    rcases trim_eq_of_cutWord hfirst with ⟨htext, hback⟩ | ⟨c, more, htext, hc, hmore, hback⟩
    · -- the word is all there is
      rcases hparts with ⟨hwhole, hvalue⟩ | ⟨rest, hrest, -⟩
      · exact ⟨hwhole.symm.trans htext, hvalue.trans hback.symm⟩
      · rw [← htext, hrest] at hspace
        simp at hspace
    · obtain ⟨tail, htail⟩ := h.resolve_left hback
      rw [htext, List.append_assoc, List.singleton_append] at htail
      obtain ⟨rfl, rfl⟩ := List.cons.inj (List.append_cancel_left htail)
      rcases hparts with ⟨hwhole, -⟩ | ⟨rest, hrest, hvalue⟩
      · rw [← hwhole, htext] at hkey
        simp at hkey
      · -- both are cut at the first space of one text
        have hsame := cutAt_append_cons hkey rest
        rw [← hrest, htext, cutAt_append_cons hspace] at hsame
        obtain ⟨rfl, rfl⟩ := Prod.mk.inj (Option.some.inj hsame)
        exact ⟨rfl, hvalue.trans hmore⟩

/-! ## Instructions -/

/-- **A pair without an equals sign.** Take arguments whose first word has no equals sign, behind a
keyword that takes pairs, in a line of their own or deferred. The instruction has one pair, for the
key up to the first space of the trimmed text. Its key is the first word, and its value the rest of
the text without the blanks around it, exactly if there is no rest or if what stands right behind
the word is a space. -/
theorem legacyPair_read {keyword : String} {make : List (String × String) → Instruction}
    (hkeyword : (keyword, make) ∈ pairKeywords) {rest first back : List Char}
    (hfirst : cutWord rest = some (first, back)) (hequals : '=' ∉ first) :
    ∃ key value : List Char,
      (∀ word, upper (String.ofList word) = keyword →
        readPlain word rest = .ok (make [(String.ofList key, String.ofList value)])) ∧
      (IsArgumentText rest → parse (keyword ++ " " ++ String.ofList rest) =
        .ok [⟨make [(String.ofList key, String.ofList value)], 1,
          keyword ++ " " ++ String.ofList rest⟩]) ∧
      IsCutAtSpace (trim rest) key value ∧
      (key = first ∧ value = trim back ↔ trim back = [] ∨ first ++ [' '] <+: trim rest) := by
  obtain ⟨hplain, hreader⟩ := reader?_of_mem_pairKeywords hkeyword
  obtain ⟨back', htrimmed, -⟩ := exists_cutWord_trim hfirst
  obtain ⟨key, value, hread, hcut⟩ := exists_readPairs_eq keyword htrimmed hequals
  refine ⟨key, value, ?_, ?_, hcut, hcut.eq_word_iff hfirst⟩
  · intro word hword
    rw [readPlain, hword, hreader]
    dsimp only
    rw [hread]
    rfl
  · intro htext
    have hargument : IsArgumentText (String.ofList rest).toList := by
      rwa [String.toList_ofList]
    refine parse_singleLine hplain hreader hargument ?_
    rw [String.toList_ofList, ← htext.trim_eq, hread]
    rfl

/-- Two spaces behind the key, and more of them in the value. -/
theorem legacyPair_read_of_spaces :
    let rest := "LEGACY  value with spaces".toList
    let back := "value with spaces".toList
    (cutWord rest = some ("LEGACY".toList, back) ∧ '=' ∉ "LEGACY".toList) ∧
      parse "ENV LEGACY  value with spaces" =
        .ok [⟨.env [("LEGACY", "value with spaces")], 1, "ENV LEGACY  value with spaces"⟩] := by
  intro rest back
  have hfirst : cutWord rest = some ("LEGACY".toList, back) := by decide +kernel
  have hequals : '=' ∉ "LEGACY".toList := by decide
  have hkeyword : ("ENV", Instruction.env) ∈ pairKeywords := List.mem_cons_self
  refine ⟨⟨hfirst, hequals⟩, ?_⟩
  obtain ⟨key, value, -, hparse, -, hpair⟩ := legacyPair_read hkeyword hfirst hequals
  have hspace : "LEGACY".toList ++ [' '] <+: trim rest := by decide +kernel
  obtain ⟨rfl, rfl⟩ := hpair.mpr (.inr hspace)
  exact hparse ⟨⟨'L', by decide, by decide⟩, ⟨'s', by decide, by decide⟩, by decide⟩

/-- A tab behind the word leaves no value: the key runs on to the end of the text. -/
theorem tab_stays_in_key :
    cutWord "A\tb".toList = some (['A'], ['b']) ∧
      parse "ENV A\tb" = .ok [⟨.env [("A\tb", "")], 1, "ENV A\tb"⟩] := by
  decide +kernel

end ContainerLint.Dockerfile
