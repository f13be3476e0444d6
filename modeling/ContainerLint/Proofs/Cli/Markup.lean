/-
Texts that are shown.

A text with tags may fail to be shown, if a tag closes what is not open or has a style
that cannot be read. Two kinds of text cannot fail: one in which no bracket opens, and
one that has been escaped, whatever it says. Escaping leaves each tag with an odd number
of backslashes before it, and makes no tag out of what was none; the reader takes one
backslash of each pair, and the odd one turns the tag into plain text. So all pieces of
an escaped text are plain.

Texts are taken apart in the same way throughout: a tag with its backslashes, or one
character at which no tag starts, and then the rest.
-/
import ContainerLint.Cli.Markup
import ContainerLint.Proofs.Result
import Mathlib.Data.List.TakeWhile

namespace ContainerLint.Cli

open ContainerLint.Text

/-! ## Tags in texts -/

/-- Neither of the brackets. -/
def isOutsideBrackets (c : Char) : Bool :=
  c != ']' && c != '['

/-- A tag as it is written, with backslashes before it. -/
def tagText (slashes : Nat) (inside : List Char) : List Char :=
  List.replicate slashes '\\' ++ '[' :: (inside ++ [']'])

/-- The first bracket of the text closes. -/
def closes (cs : List Char) : Bool :=
  (cs.dropWhile isOutsideBrackets).head? == some ']'

section Inside

variable {c : Char} {cs inside rest : List Char}

end Inside

/-! ### Where tags start -/

section Starts

variable {c : Char} {cs rest inside : List Char} {slashes : Nat}

end Starts

/-! ## Escaped texts -/

section Escaped

variable {cs inside tail : List Char} {slashes : Nat}

end Escaped

/-! ## Pieces -/

/-- The piece is no tag. -/
def MarkupPiece.isPlain : MarkupPiece → Bool
  | .plain _ => true
  | .tag .. => false

section Pieces

variable {position : Nat} {run cs rest inside tail : List Char} {slashes : Nat}

end Pieces

/-! ## What is shown -/

/-- The pieces are seen, with these tags among them, after tags that are open. -/
def Sees (opened : List OpenTag) (pieces : List MarkupPiece) (tags : List OpenTag) : Prop :=
  ∃ plain, seen opened pieces = .ok (plain, tags)

namespace Sees

variable {opened others tags : List OpenTag} {pieces : List MarkupPiece} {tag : OpenTag}
  {inside : List Char} {position : Nat}

/-- Plain text opens and closes nothing. -/
theorem plain (h : Sees opened pieces tags) (text : List Char) :
    Sees opened (.plain text :: pieces) tags := by
  obtain ⟨after, hafter⟩ := h
  unfold Sees
  rw [seen, hafter]
  exact ⟨_, rfl⟩

/-- A tag that opens is open for what follows. -/
theorem opening (h : Sees (tag :: opened) pieces tags)
    (hopens : (inside.head? == some '/') = false) (hread : readTag inside = .ok tag) :
    Sees opened (.tag inside position :: pieces) tags := by
  obtain ⟨after, hafter⟩ := h
  refine ⟨after, ?_⟩
  rw [seen, hopens, if_neg Bool.false_ne_true, hread]
  exact hafter

/-- A tag that closes is seen, if its handler and its style can be. -/
theorem closing (h : Sees others pieces tags)
    (hcloses : (inside.head? == some '/') = true)
    (hclosed : closedBy opened inside position = .ok (tag, others))
    (harguments : tag.checkHandler = .ok ()) (hstyle : startsWith tag.name "@" = false) :
    Sees opened (.tag inside position :: pieces) (tag :: tags) := by
  obtain ⟨after, hafter⟩ := h
  refine ⟨after, ?_⟩
  rw [seen, hcloses, if_pos rfl, hclosed]
  simp only [bind, Except.bind, harguments, hafter, hstyle]
  rfl

end Sees

section Shown

variable {text : String}

end Shown

/-! ### Texts with a tag around their beginning -/

end ContainerLint.Cli
