/-
Emoji by name. A name between two colons stands for the characters of that emoji; it
may end in the way in which they are to be shown. Names that no emoji has stay as they
are, colons included.
-/
import ContainerLint.Cli.EmojiTable
import ContainerLint.Text.Case
import ContainerLint.Text.Cut

namespace ContainerLint.Cli

open ContainerLint.Text

/-- The tones of skin: the end of a name that asks for one, and its character. -/
def skinTones : List (List Char × Char) := [
  ("_light_skin_tone".toList, Char.ofNat 0x1F3FB),
  ("_medium-light_skin_tone".toList, Char.ofNat 0x1F3FC),
  ("_medium_skin_tone".toList, Char.ofNat 0x1F3FD),
  ("_medium-dark_skin_tone".toList, Char.ofNat 0x1F3FE),
  ("_dark_skin_tone".toList, Char.ofNat 0x1F3FF)]

/-- The emoji of an entry: one in every tone if the entry leaves the tone open, else the
entry itself. -/
def inTones (entry : List Char × List Char) : List (List Char × List Char) :=
  if entry.1.contains '~' then
    skinTones.map fun (ending, tone) =>
      (replaceAll ['~'] ending entry.1, replaceAll ['~'] [tone] entry.2)
  else [entry]

/-- The character for a woman in the place of that for a man. -/
def womanFor (c : Char) : Char :=
  if c == '👨' then '👩' else if c == '♂' then '♀' else c

/-- The emoji of an entry: of a man and of a woman if the entry leaves that open. -/
def inGenders (entry : List Char × List Char) : List (List Char × List Char) :=
  if entry.1.contains '%' then
    [(replaceAll ['%'] "man".toList entry.1, entry.2),
      (replaceAll ['%'] "woman".toList entry.1, entry.2.map womanFor)]
  else [entry]

/-- An entry under each of its names. -/
def underNames (entry : List Char × List Char) : List (List Char × List Char) :=
  (splitAtChar '|' entry.1).map fun name => (name, entry.2)

/-- The flag of a country under its two names. -/
def flagsOf (entry : List Char × List Char) : List (List Char × List Char) :=
  let flag := entry.2.map fun c => Char.ofNat (0x1F1E6 + (c.toNat - 'A'.toNat))
  [(entry.1, flag), ("flag_for_".toList ++ entry.1, flag)]

/-- The entries of a table. -/
def entriesIn (table : List String) : List (List Char × List Char) :=
  table.flatMap fun line => (splitAtChar ' ' line.toList).filterMap (cutAt '=')

/-- The names of emoji and what they stand for, as pairs. -/
def emojiPairs : List (List Char × List Char) :=
  (((entriesIn emojiTable).flatMap underNames).flatMap inGenders).flatMap inTones ++
    (entriesIn flagTable).flatMap flagsOf

/-- The characters of the emoji of a name in small letters. -/
def emoji? (name : List Char) : Option (List Char) :=
  emojiPairs.lookup name

/-- The ways to show an emoji, and the character that asks for each. -/
def emojiVariants : List (List Char × Char) :=
  [("-emoji".toList, Char.ofNat 0xFE0F), ("-text".toList, Char.ofNat 0xFE0E)]

/-- The name in what stands between two colons, and the way to show the emoji. -/
def cutVariant (inside : List Char) : List Char × Option Char :=
  match emojiVariants.find? fun v => v.1.isSuffixOf inside with
  | some (ending, mark) => (inside.take (inside.length - ending.length), some mark)
  | none => (inside, none)

/-- What stands between two colons, if an emoji has that name in small letters, as the
emoji. -/
def emojiFor? (inside : List Char) : Option (List Char) :=
  let (name, mark) := cutVariant inside
  (emoji? (lower (String.ofList name)).toList).map (· ++ mark.toList)

/-- What stands after a colon up to the next one, without a blank. -/
def untilColon? (cs : List Char) : Option (List Char) :=
  let inside := cs.takeWhile fun c => c != ':' && !isBlank c
  if (cs.drop inside.length).head? == some ':' then some inside else none

/-- The text with emoji in the place of their names, `skip` characters having been dealt
with. -/
def emojiFrom : Nat → List Char → List Char
  | _, [] => []
  | skip + 1, _ :: cs => emojiFrom skip cs
  | 0, ':' :: cs =>
    match untilColon? cs with
    | none => ':' :: emojiFrom 0 cs
    | some inside =>
      (emojiFor? inside).getD (':' :: inside ++ [':']) ++ emojiFrom (inside.length + 1) cs
  | 0, c :: cs => c :: emojiFrom 0 cs

/-- The text with emoji in the place of their names. -/
def withEmoji (text : List Char) : List Char :=
  emojiFrom 0 text

end ContainerLint.Cli
