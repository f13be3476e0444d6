/-
The exec form, written and read back.

A list of texts is written as an array of strings on one line. There are many ways to do
that: a character may stand for itself or be escaped, by a letter or by its number, in
digits of either case, and a character beyond the first plane by two numbers; blanks may
stand between the tokens. Quotes, backslashes and control characters have to be escaped,
so that no such text has a line end in it.

Whichever way is taken, the reader finds the texts again, character by character. It goes
through the array with a state; each way to write a character takes it from a string back
into that string, with the character added. Before that, the line has to come through the
assembly of lines whole, which it does since it starts with a keyword and ends with a
bracket.
-/
import ContainerLint.Proofs.Dockerfile.SingleLine

namespace ContainerLint.Dockerfile.ExecForm

open ContainerLint.Text

/-! ## Writing -/

/-- The escapes of one letter, with what they stand for. -/
def shortEscapes : List (Char × Char) := [
  ('"', '"'), ('\\', '\\'), ('/', '/'), ('b', Char.ofNat 8), ('f', Char.ofNat 12),
  ('n', Char.ofNat 10), ('r', Char.ofNat 13), ('t', Char.ofNat 9)]

/-- The digits of numbers in escapes, in lower and upper case. -/
def hexDigits : List (Char × Char) :=
  "0123456789abcdef".toList.zip "0123456789ABCDEF".toList

/-- A digit of a number in an escape has a value. -/
def IsHexDigit (c : Char) (value : Nat) : Prop :=
  ∃ digit ∈ hexDigits[value]?, c = digit.1 ∨ c = digit.2

instance (c : Char) (value : Nat) : Decidable (IsHexDigit c value) :=
  inferInstanceAs (Decidable (∃ digit ∈ hexDigits[value]?, c = digit.1 ∨ c = digit.2))

/-- Four digits write a number. -/
inductive IsHexOf : List Char → Nat → Prop
  | four {a b c d : Char} {i j k l : Nat} (ha : IsHexDigit a i) (hb : IsHexDigit b j)
      (hc : IsHexDigit c k) (hd : IsHexDigit d l) :
      IsHexOf [a, b, c, d] (((i * 16 + j) * 16 + k) * 16 + l)

/-- A character in a string may be written in a way. -/
inductive WrittenChar (c : Char) : List Char → Prop
  /-- As it is. -/
  | raw (hcontrol : 32 ≤ c.toNat) (hquote : c ≠ '"') (hbackslash : c ≠ '\\') : WrittenChar c [c]
  /-- By a letter. -/
  | short {letter : Char} (hletter : (letter, c) ∈ shortEscapes) : WrittenChar c ['\\', letter]
  /-- By its number. -/
  | unit {digits : List Char} (hdigits : IsHexOf digits c.toNat) :
      WrittenChar c ('\\' :: 'u' :: digits)
  /-- By the numbers of two halves, if it is beyond the first plane. -/
  | pair {high low : List Char} (hplane : 0x10000 ≤ c.toNat)
      (hhigh : IsHexOf high (0xD800 + (c.toNat - 0x10000) / 1024))
      (hlow : IsHexOf low (0xDC00 + (c.toNat - 0x10000) % 1024)) :
      WrittenChar c ('\\' :: 'u' :: high ++ '\\' :: 'u' :: low)

/-- A text may be written in a way inside of quotes. -/
inductive WrittenText : List Char → List Char → Prop
  | nil : WrittenText [] []
  | cons {c : Char} {cs written rest : List Char} (hc : WrittenChar c written)
      (hcs : WrittenText cs rest) : WrittenText (c :: cs) (written ++ rest)

/-- Spaces and tabs. -/
def IsOneLineGap (gap : List Char) : Prop :=
  ∀ c ∈ gap, c = ' ' ∨ c = '\t'

instance (gap : List Char) : Decidable (IsOneLineGap gap) :=
  List.decidableBAll (fun c => c = ' ' ∨ c = '\t') gap

/-- What follows an item of an array, up to its end. -/
inductive WrittenTail : List String → List Char → Prop
  | close {gap : List Char} (hgap : IsOneLineGap gap) : WrittenTail [] (gap ++ [']'])
  | next {gap gap' body tail : List Char} {item : String} {items : List String}
      (hgap : IsOneLineGap gap) (hgap' : IsOneLineGap gap') (hbody : WrittenText item.toList body)
      (htail : WrittenTail items tail) :
      WrittenTail (item :: items) (gap ++ ',' :: (gap' ++ '"' :: (body ++ '"' :: tail)))

/-- An array of strings on one line. -/
inductive WrittenArray : List String → List Char → Prop
  | empty {gap : List Char} (hgap : IsOneLineGap gap) : WrittenArray [] ('[' :: (gap ++ [']']))
  | items {gap body tail : List Char} {item : String} {items : List String}
      (hgap : IsOneLineGap gap) (hbody : WrittenText item.toList body)
      (htail : WrittenTail items tail) :
      WrittenArray (item :: items) ('[' :: (gap ++ '"' :: (body ++ '"' :: tail)))

/-! ## Numbers -/

theorem lt_of_isHexDigit {c : Char} {value : Nat} (h : IsHexDigit c value) : value < 16 := by
  obtain ⟨digit, hdigit, -⟩ := h
  exact (List.getElem?_eq_some_iff.mp hdigit).1

/-- Every value below sixteen has a digit. -/
theorem exists_isHexDigit (value : Nat) (h : value < 16) : ∃ c, IsHexDigit c value := by
  have hlength : value < hexDigits.length := h
  exact ⟨_, hexDigits[value], List.getElem?_eq_getElem hlength, .inl rfl⟩

/-- Every number of sixteen bits can be written. -/
theorem exists_isHexOf {n : Nat} (h : n < 0x10000) : ∃ digits, IsHexOf digits n := by
  obtain ⟨a, ha⟩ := exists_isHexDigit (n / 4096) (by omega)
  obtain ⟨b, hb⟩ := exists_isHexDigit (n / 256 % 16) (by omega)
  obtain ⟨c, hc⟩ := exists_isHexDigit (n / 16 % 16) (by omega)
  obtain ⟨d, hd⟩ := exists_isHexDigit (n % 16) (by omega)
  have hn : ((n / 4096 * 16 + n / 256 % 16) * 16 + n / 16 % 16) * 16 + n % 16 = n := by omega
  exact ⟨[a, b, c, d], hn ▸ .four ha hb hc hd⟩

theorem lt_of_isHexOf {digits : List Char} {n : Nat} (h : IsHexOf digits n) : n < 0x10000 := by
  cases h with
  | four ha hb hc hd =>
    have := lt_of_isHexDigit ha
    have := lt_of_isHexDigit hb
    have := lt_of_isHexDigit hc
    have := lt_of_isHexDigit hd
    omega

/-- The reader knows all digits, of either case. -/
theorem hexValue?_of_isHexDigit {c : Char} {value : Nat} (h : IsHexDigit c value) :
    hexValue? c = some value := by
  have hall : ∀ v < 16, ∀ digit ∈ hexDigits[v]?,
      hexValue? digit.1 = some v ∧ hexValue? digit.2 = some v := by decide
  have hlt := lt_of_isHexDigit h
  obtain ⟨digit, hdigit, rfl | rfl⟩ := h
  · exact (hall value hlt digit hdigit).1
  · exact (hall value hlt digit hdigit).2

/-! ## Reading -/

section Scan

variable {p : Pending} {items : List String} {cs : List Char}

/-- Blanks between items are skipped. -/
theorem scan_gap {place : Place} (hplace : place = .opened ∨ place = .comma ∨ place = .item)
    {gap : List Char} (hgap : IsOneLineGap gap) :
    scan place p items (gap ++ cs) = scan place p items cs := by
  induction gap with
  | nil => rfl
  | cons c gap ih =>
    obtain ⟨hc, hgap⟩ := List.forall_mem_cons.mp hgap
    have hblank : isGap c = true := by
      rcases hc with rfl | rfl <;> decide
    rw [List.cons_append]
    rcases hplace with rfl | rfl | rfl
    · rw [scan, if_pos hblank, ih hgap]
    · rw [scan, if_pos hblank, ih hgap]
    · rw [scan, if_pos hblank, ih hgap]

/-- Four digits stand for one unit. -/
theorem scan_hex {digits : List Char} {n : Nat} (h : IsHexOf digits n) :
    scan .text p items ('\\' :: 'u' :: digits ++ cs) = scan .text (p.pushUnit n) items cs := by
  cases h with
  | @four a b c d i j k l ha hb hc hd =>
    have hbackslash : scan .text p items ('\\' :: 'u' :: [a, b, c, d] ++ cs) =
        scan (.code 4 0) p items (a :: b :: c :: d :: cs) := rfl
    rw [hbackslash, scan, hexValue?_of_isHexDigit ha]
    dsimp only
    rw [if_neg (by decide), scan, hexValue?_of_isHexDigit hb]
    dsimp only
    rw [if_neg (by decide), scan, hexValue?_of_isHexDigit hc]
    dsimp only
    rw [if_neg (by decide), scan, hexValue?_of_isHexDigit hd]
    dsimp only
    rw [if_pos (by decide), Nat.zero_mul, Nat.zero_add]

/-- A number that is no half of a pair is a character. -/
theorem pushUnit_of_char (c : Char) (hc : c.toNat < 0x10000) : p.pushUnit c.toNat = p.push c := by
  have hhalf : c.toNat < 0xD800 ∨ 0xDFFF < c.toNat ∧ c.toNat < 0x110000 := c.valid
  unfold Pending.pushUnit
  rw [if_neg (by omega), if_neg (by omega), Char.ofNat_toNat]

/-- The halves of a pair make up the character. -/
theorem pushUnit_pushUnit (c : Char) (hc : 0x10000 ≤ c.toNat) :
    (p.pushUnit (0xD800 + (c.toNat - 0x10000) / 1024)).pushUnit
      (0xDC00 + (c.toNat - 0x10000) % 1024) = p.push c := by
  have hvalid : c.toNat < 0xD800 ∨ 0xDFFF < c.toNat ∧ c.toNat < 0x110000 := c.valid
  have hhigh : p.pushUnit (0xD800 + (c.toNat - 0x10000) / 1024) =
      { chars := p.settle, high := some (0xD800 + (c.toNat - 0x10000) / 1024) } := by
    unfold Pending.pushUnit
    rw [if_pos (by omega)]
  -- the two halves of a pair put the character together again
  have hsum : 0x10000 + (0xD800 + (c.toNat - 0x10000) / 1024 - 0xD800) * 1024 +
      (0xDC00 + (c.toNat - 0x10000) % 1024 - 0xDC00) = c.toNat := by omega
  rw [hhigh]
  unfold Pending.pushUnit
  rw [if_neg (by omega), if_pos (by omega)]
  dsimp only
  rw [hsum, Char.ofNat_toNat]
  rfl

/-- **However a character is written, it is read.** -/
theorem scan_writtenChar {c : Char} {written : List Char} (h : WrittenChar c written) :
    scan .text p items (written ++ cs) = scan .text (p.push c) items cs := by
  cases h with
  | raw hcontrol hquote hbackslash =>
    rw [List.singleton_append, scan, if_neg (by simpa using hquote),
      if_neg (by simpa using hbackslash), if_neg (by omega)]
  | @short letter hletter =>
    -- none of the short escapes is taken for the start of a long one
    have hescaped : ∀ e ∈ shortEscapes, e.1 ≠ 'u' ∧ escaped? e.1 = some e.2 := by decide
    obtain ⟨hu, hletter⟩ := hescaped _ hletter
    have hbackslash : scan .text p items (['\\', letter] ++ cs) =
        scan .escape p items (letter :: cs) := rfl
    rw [hbackslash, scan, if_neg (by simpa using hu), hletter]
  | unit hdigits => rw [scan_hex hdigits, pushUnit_of_char c (lt_of_isHexOf hdigits)]
  | pair hplane hhigh hlow =>
    rw [List.append_assoc, scan_hex hhigh, scan_hex hlow, pushUnit_pushUnit c hplane]

/-- A text that is written between quotes is read back. -/
theorem scan_writtenText {text written : List Char} (h : WrittenText text written)
    (before : List Char) :
    scan .text { chars := before } items (written ++ '"' :: cs) =
      scan .item {} (String.ofList (before.reverse ++ text) :: items) cs := by
  induction h generalizing before with
  | nil =>
    rw [List.append_nil]
    rfl
  | @cons c text written rest hc _ ih =>
    have hpush : ({ chars := before } : Pending).push c = { chars := c :: before } := rfl
    rw [List.append_assoc, scan_writtenChar hc, hpush, ih, List.reverse_cons, List.append_assoc,
      List.singleton_append]

/-- A string is read into one item. -/
theorem scan_item {item : String} {body : List Char} (h : WrittenText item.toList body) :
    scan .text {} items (body ++ '"' :: cs) = scan .item {} (item :: items) cs := by
  rw [scan_writtenText h [], List.reverse_nil, List.nil_append, String.ofList_toList]

/-- The items that follow the first are read back. -/
theorem scan_writtenTail {rest : List String} {tail : List Char} (h : WrittenTail rest tail) :
    scan .item {} items tail = some (items.reverse ++ rest) := by
  induction h generalizing items with
  | close hgap =>
    rw [scan_gap (.inr (.inr rfl)) hgap, List.append_nil]
    rfl
  | @next gap gap' body tail item rest hgap hgap' hbody _ ih =>
    have hcomma : ∀ cs, scan .item {} items (',' :: cs) = scan .comma {} items cs := fun _ => rfl
    have hquote : ∀ cs, scan .comma {} items ('"' :: cs) = scan .text {} items cs := fun _ => rfl
    rw [scan_gap (.inr (.inr rfl)) hgap, hcomma, scan_gap (.inr (.inl rfl)) hgap', hquote,
      scan_item hbody, ih, List.reverse_cons, List.append_assoc, List.singleton_append]

end Scan

/-- **An array of strings is read back.** -/
theorem read?_of_writtenArray {items : List String} {text : List Char}
    (h : WrittenArray items text) : read? text = some items := by
  have hopen : ∀ cs, read? ('[' :: cs) = scan .opened {} [] cs := fun _ => rfl
  cases h with
  | empty hgap =>
    rw [hopen, scan_gap (.inl rfl) hgap]
    rfl
  | items hgap hbody htail =>
    have hquote : ∀ cs, scan .opened {} [] ('"' :: cs) = scan .text {} [] cs := fun _ => rfl
    rw [hopen, scan_gap (.inl rfl) hgap, hquote, scan_item hbody, scan_writtenTail htail]
    rfl

/-! ## On one line -/

theorem IsOneLineGap.isOnOneLine {gap : List Char} (h : IsOneLineGap gap) : IsOnOneLine gap := by
  intro c hc
  rcases h c hc with rfl | rfl <;> decide

theorem IsHexDigit.isOnOneLine {c : Char} {value : Nat} (h : IsHexDigit c value) :
    c ≠ '\n' ∧ c ≠ '\r' := by
  have hall : ∀ digit ∈ hexDigits, (digit.1 ≠ '\n' ∧ digit.1 ≠ '\r') ∧
      digit.2 ≠ '\n' ∧ digit.2 ≠ '\r' := by decide
  obtain ⟨digit, hdigit, rfl | rfl⟩ := h
  · exact (hall digit (List.mem_of_getElem? hdigit)).1
  · exact (hall digit (List.mem_of_getElem? hdigit)).2

theorem IsHexOf.isOnOneLine {digits : List Char} {n : Nat} (h : IsHexOf digits n) :
    IsOnOneLine digits := by
  cases h with
  | four ha hb hc hd =>
    simp only [isOnOneLine_cons]
    exact ⟨ha.isOnOneLine, hb.isOnOneLine, hc.isOnOneLine, hd.isOnOneLine,
      fun _ h => absurd h List.not_mem_nil⟩

/-- However a character is written, it is written on one line. -/
theorem WrittenChar.isOnOneLine {c : Char} {written : List Char} (h : WrittenChar c written) :
    IsOnOneLine written := by
  have hunit : IsOnOneLine ['\\', 'u'] := by decide
  cases h with
  | raw hcontrol =>
    intro d hd
    rw [List.mem_singleton.mp hd]
    constructor
    · rintro rfl
      exact absurd hcontrol (by decide)
    · rintro rfl
      exact absurd hcontrol (by decide)
  | @short letter hletter =>
    have hletters : ∀ e ∈ shortEscapes, IsOnOneLine ['\\', e.1] := by decide
    exact hletters _ hletter
  | unit hdigits => exact isOnOneLine_append.mpr ⟨hunit, hdigits.isOnOneLine⟩
  | pair _ hhigh hlow =>
    have hfirst := isOnOneLine_append.mpr ⟨hunit, hhigh.isOnOneLine⟩
    exact isOnOneLine_append.mpr
      ⟨hfirst, isOnOneLine_append.mpr ⟨hunit, hlow.isOnOneLine⟩⟩

theorem WrittenText.isOnOneLine {text written : List Char} (h : WrittenText text written) :
    IsOnOneLine written := by
  induction h with
  | nil => exact fun _ h => absurd h List.not_mem_nil
  | cons hc _ ih => exact isOnOneLine_append.mpr ⟨hc.isOnOneLine, ih⟩

/-- What follows an item stays on the line and ends with the bracket. -/
theorem WrittenTail.exists_concat {items : List String} {tail : List Char}
    (h : WrittenTail items tail) : ∃ front, IsOnOneLine front ∧ tail = front ++ [']'] := by
  induction h with
  | close hgap => exact ⟨_, hgap.isOnOneLine, rfl⟩
  | @next gap gap' body tail item items hgap hgap' hbody _ ih =>
    obtain ⟨front, hfront, rfl⟩ := ih
    refine ⟨gap ++ ',' :: (gap' ++ '"' :: (body ++ '"' :: front)), ?_, by simp⟩
    simp only [isOnOneLine_append, isOnOneLine_cons]
    exact ⟨hgap.isOnOneLine, by decide, hgap'.isOnOneLine, by decide, hbody.isOnOneLine, by decide,
      hfront⟩

/-- An array stands between brackets on one line. -/
theorem WrittenArray.exists_bracketed {items : List String} {text : List Char}
    (h : WrittenArray items text) :
    ∃ inner, IsOnOneLine inner ∧ text = '[' :: (inner ++ [']']) := by
  cases h with
  | empty hgap => exact ⟨_, hgap.isOnOneLine, rfl⟩
  | @items gap body tail item items hgap hbody htail =>
    obtain ⟨front, hfront, rfl⟩ := htail.exists_concat
    refine ⟨gap ++ '"' :: (body ++ '"' :: front), ?_, by simp⟩
    simp only [isOnOneLine_append, isOnOneLine_cons]
    exact ⟨hgap.isOnOneLine, by decide, hbody.isOnOneLine, by decide, hfront⟩

/-! ## Every list can be written -/

/-- Every character can be written. -/
theorem exists_writtenChar (c : Char) : ∃ written, WrittenChar c written := by
  by_cases hraw : 32 ≤ c.toNat ∧ c ≠ '"' ∧ c ≠ '\\'
  · exact ⟨_, .raw hraw.1 hraw.2.1 hraw.2.2⟩
  · have hsmall : c.toNat < 0x10000 := by
      by_contra hlarge
      refine hraw ⟨by omega, ?_, ?_⟩
      · rintro rfl
        exact hlarge (by decide)
      · rintro rfl
        exact hlarge (by decide)
    obtain ⟨digits, hdigits⟩ := exists_isHexOf hsmall
    exact ⟨_, .unit hdigits⟩

theorem exists_writtenText (text : List Char) : ∃ written, WrittenText text written := by
  induction text with
  | nil => exact ⟨_, .nil⟩
  | cons c text ih =>
    obtain ⟨written, hc⟩ := exists_writtenChar c
    obtain ⟨rest, hrest⟩ := ih
    exact ⟨_, .cons hc hrest⟩

theorem exists_writtenTail (items : List String) : ∃ tail, WrittenTail items tail := by
  have hgap : IsOneLineGap [] := fun _ h => absurd h List.not_mem_nil
  induction items with
  | nil => exact ⟨_, .close hgap⟩
  | cons item items ih =>
    obtain ⟨body, hbody⟩ := exists_writtenText item.toList
    obtain ⟨tail, htail⟩ := ih
    exact ⟨_, .next hgap hgap hbody htail⟩

/-- Every list of texts can be written as an array. -/
theorem exists_writtenArray (items : List String) : ∃ text, WrittenArray items text := by
  have hgap : IsOneLineGap [] := fun _ h => absurd h List.not_mem_nil
  cases items with
  | nil => exact ⟨_, .empty hgap⟩
  | cons item items =>
    obtain ⟨body, hbody⟩ := exists_writtenText item.toList
    obtain ⟨tail, htail⟩ := exists_writtenTail items
    exact ⟨_, .items hgap hbody htail⟩

end ContainerLint.Dockerfile.ExecForm

namespace ContainerLint.Dockerfile

open ContainerLint.Text ContainerLint.Dockerfile.ExecForm

/-! ## Instructions -/

section Instructions

variable {items : List String} {text : String}

/-- Arguments that are written as an array are read as the list of its items. -/
theorem readArguments_of_writtenArray (h : WrittenArray items text.toList) (keyword : String) :
    readArguments keyword text.toList = .ok (.exec items) := by
  have hne : ¬ text.toList.isEmpty = true := by
    obtain ⟨inner, -, htext⟩ := h.exists_bracketed
    rw [htext]
    exact Bool.false_ne_true
  unfold readArguments
  rw [if_neg hne, read?_of_writtenArray h]

/-- An array may stand behind a keyword as it is. -/
theorem isArgumentText_of_writtenArray (h : WrittenArray items text.toList) :
    IsArgumentText text.toList := by
  obtain ⟨inner, hinner, htext⟩ := h.exists_bracketed
  rw [htext]
  refine ⟨⟨'[', rfl, by decide⟩, ⟨']', ?_, by decide, by decide⟩, ?_⟩
  · rw [← List.cons_append, List.getLast?_concat]
    rfl
  · rw [isOnOneLine_cons, isOnOneLine_append]
    exact ⟨by decide, hinner, by decide⟩

/-- A keyword and an array make up the instruction that the reader of the keyword finds in
the array. -/
theorem parse_of_writtenArray (h : WrittenArray items text.toList) (keyword : String)
    (hkeyword : keyword ∈ plainKeywords) {reader : ArgumentReader}
    (hreader : reader? keyword = some reader) {i : Instruction}
    (hread : reader text.toList = .ok i) :
    parse (keyword ++ " " ++ text) = .ok [⟨i, 1, keyword ++ " " ++ text⟩] :=
  parse_singleLine hkeyword hreader (isArgumentText_of_writtenArray h) hread

/-- **The exec form is read back as it was meant.** Every list of texts can be written as
an array on one line. Behind each of the four keywords that take it, such a line is one
instruction, with the texts of the list and nothing else; only SHELL asks that there be
some. -/
theorem parse_execForm (items : List String) :
    (∃ text : String, WrittenArray items text.toList) ∧
    ∀ text : String, WrittenArray items text.toList →
      parse ("CMD " ++ text) = .ok [⟨.cmd (.exec items), 1, "CMD " ++ text⟩] ∧
      parse ("ENTRYPOINT " ++ text) =
        .ok [⟨.entrypoint (.exec items), 1, "ENTRYPOINT " ++ text⟩] ∧
      parse ("VOLUME " ++ text) = .ok [⟨.volume items, 1, "VOLUME " ++ text⟩] ∧
      (items ≠ [] →
        parse ("SHELL " ++ text) = .ok [⟨.shell (.exec items), 1, "SHELL " ++ text⟩]) := by
  constructor
  · obtain ⟨text, h⟩ := exists_writtenArray items
    exact ⟨String.ofList text, by rwa [String.toList_ofList]⟩
  · intro text h
    -- all four keywords read their arguments in the same way, and only `SHELL` asks for an item
    have harguments := readArguments_of_writtenArray h
    refine ⟨parse_of_writtenArray h "CMD" (by decide) rfl ?_,
      parse_of_writtenArray h "ENTRYPOINT" (by decide) rfl ?_,
      parse_of_writtenArray h "VOLUME" (by decide) rfl ?_, fun hne => ?_⟩
    · rw [harguments]
      rfl
    · rw [harguments]
      rfl
    · rw [readVolume, harguments]
      rfl
    · refine parse_of_writtenArray h "SHELL" (by decide) rfl ?_
      obtain ⟨item, rest, rfl⟩ := List.exists_cons_of_ne_nil hne
      rw [readShell, harguments]
      rfl

end Instructions

/-- A quote, a character in two halves with digits of either case, and blanks of both
kinds. -/
theorem parse_execForm_escapes :
    parse "SHELL [ \"\\\"\" ,\t\"\\ud83D\\uDE00\"]" = .ok [⟨.shell (.exec ["\"", "😀"]), 1,
      "SHELL [ \"\\\"\" ,\t\"\\ud83D\\uDE00\"]"⟩] := by
  have hquote : WrittenChar '"' ['\\', '"'] := .short (by decide)
  have hhigh : IsHexOf ['d', '8', '3', 'D'] 0xD83D :=
    .four (i := 13) (j := 8) (k := 3) (l := 13) (by decide) (by decide) (by decide) (by decide)
  have hlow : IsHexOf ['D', 'E', '0', '0'] 0xDE00 :=
    .four (i := 13) (j := 14) (k := 0) (l := 0) (by decide) (by decide) (by decide) (by decide)
  have hhighHalf : 0xD83D = 0xD800 + ('😀'.toNat - 0x10000) / 1024 := by decide
  have hlowHalf : 0xDE00 = 0xDC00 + ('😀'.toNat - 0x10000) % 1024 := by decide
  have hpair : WrittenChar '😀' ['\\', 'u', 'd', '8', '3', 'D', '\\', 'u', 'D', 'E', '0', '0'] :=
    .pair (by decide) (hhighHalf ▸ hhigh) (hlowHalf ▸ hlow)
  have htail : WrittenTail ["😀"] ([' '] ++ ',' :: (['\t'] ++ '"' ::
      (['\\', 'u', 'd', '8', '3', 'D', '\\', 'u', 'D', 'E', '0', '0'] ++ '"' :: [']']))) :=
    .next (by decide) (by decide) (.cons hpair .nil) (@WrittenTail.close [] (by decide))
  have harray : WrittenArray ["\"", "😀"] "[ \"\\\"\" ,\t\"\\ud83D\\uDE00\"]".toList :=
    @WrittenArray.items [' '] _ _ "\"" _ (by decide) (.cons hquote .nil) htail
  exact ((parse_execForm _).2 _ harray).2.2.2 (by decide)

end ContainerLint.Dockerfile
