/-
Styles of text: attributes that are on or off, two colours, and a link. A style is
written as words in any order; its normal form has them in one order, so that two ways
of writing a style can be told to be the same.
-/
import ContainerLint.Text.Case
import ContainerLint.Text.Cut
import ContainerLint.Text.Digit

namespace ContainerLint.Cli

open ContainerLint.Text

/-! ## Colours -/

/-- The names of colours, many to a line. -/
def colourLines : List String := [
  "aquamarine1 aquamarine3 black blue blue1 blue3 blue_violet bright_black bright_blue",
  "bright_cyan bright_green bright_magenta bright_red bright_white bright_yellow cadet_blue",
  "chartreuse1 chartreuse2 chartreuse3 chartreuse4 cornflower_blue cornsilk1 cyan cyan1",
  "cyan2 cyan3 dark_blue dark_cyan dark_goldenrod dark_green dark_khaki dark_magenta",
  "dark_olive_green1 dark_olive_green2 dark_olive_green3 dark_orange dark_orange3 dark_red",
  "dark_sea_green dark_sea_green1 dark_sea_green2 dark_sea_green3 dark_sea_green4",
  "dark_slate_gray1 dark_slate_gray2 dark_slate_gray3 dark_turquoise dark_violet deep_pink1",
  "deep_pink2 deep_pink3 deep_pink4 deep_sky_blue1 deep_sky_blue2 deep_sky_blue3",
  "deep_sky_blue4 dodger_blue1 dodger_blue2 dodger_blue3 gold1 gold3 gray0 gray100 gray11",
  "gray15 gray19 gray23 gray27 gray3 gray30 gray35 gray37 gray39 gray42 gray46 gray50 gray53",
  "gray54 gray58 gray62 gray63 gray66 gray69 gray7 gray70 gray74 gray78 gray82 gray84 gray85",
  "gray89 gray93 green green1 green3 green4 green_yellow grey0 grey100 grey11 grey15 grey19",
  "grey23 grey27 grey3 grey30 grey35 grey37 grey39 grey42 grey46 grey50 grey53 grey54 grey58",
  "grey62 grey63 grey66 grey69 grey7 grey70 grey74 grey78 grey82 grey84 grey85 grey89 grey93",
  "honeydew2 hot_pink hot_pink2 hot_pink3 indian_red indian_red1 khaki1 khaki3 light_coral",
  "light_cyan1 light_cyan3 light_goldenrod1 light_goldenrod2 light_goldenrod3 light_green",
  "light_pink1 light_pink3 light_pink4 light_salmon1 light_salmon3 light_sea_green",
  "light_sky_blue1 light_sky_blue3 light_slate_blue light_slate_gray light_slate_grey",
  "light_steel_blue light_steel_blue1 light_steel_blue3 light_yellow3 magenta magenta1",
  "magenta2 magenta3 medium_orchid medium_orchid1 medium_orchid3 medium_purple",
  "medium_purple1 medium_purple2 medium_purple3 medium_purple4 medium_spring_green",
  "medium_turquoise medium_violet_red misty_rose1 misty_rose3 navajo_white1 navajo_white3",
  "navy_blue orange1 orange3 orange4 orange_red1 orchid orchid1 orchid2 pale_green1",
  "pale_green3 pale_turquoise1 pale_turquoise4 pale_violet_red1 pink1 pink3 plum1 plum2",
  "plum3 plum4 purple purple3 purple4 red red1 red3 rosy_brown royal_blue1 salmon1",
  "sandy_brown sea_green1 sea_green2 sea_green3 sky_blue1 sky_blue2 sky_blue3 slate_blue1",
  "slate_blue3 spring_green1 spring_green2 spring_green3 spring_green4 steel_blue",
  "steel_blue1 steel_blue3 tan thistle1 thistle3 turquoise2 turquoise4 violet wheat1 wheat4",
  "white yellow yellow1 yellow2 yellow3 yellow4"]

/-- The names of colours; one stands for the screen's own. -/
def colourNames : List String :=
  "default" :: colourLines.flatMap wordsOf

/-- A digit to the base sixteen, in small letters. -/
def isSmallHex (c : Char) : Bool :=
  ('0' ≤ c && c ≤ '9') || ('a' ≤ c && c ≤ 'f')

/-- What stands between a name with an opening parenthesis and a closing one at the end. -/
def insideCall? (name : String) (cs : List Char) : Option (List Char) :=
  let opening := name.toList ++ ['(']
  if opening.isPrefixOf cs && cs.getLast? == some ')' then
    some ((cs.drop opening.length).dropLast)
  else none

/-- The text is a number of a colour: up to three digits, at most 255. -/
def isColourNumber (cs : List Char) : Bool :=
  !cs.isEmpty && cs.length ≤ 3 && cs.all Char.isDigit &&
    (readDecimal cs).toOption.any (· ≤ 255)

/-- The text is a mixture: three numbers up to 255 with commas between them. A part
without a digit is refused as a number. -/
def isMixture (cs : List Char) : Except NumeralError Bool := do
  if cs.isEmpty || !cs.all fun c => isDecimal c || isBlank c || c == ',' then return false
  let parts := splitAtChar ',' cs
  if parts.length != 3 then return false
  let numbers ← parts.mapM fun part => readNumeral 10 (String.ofList part)
  return numbers.all (· ≤ 255)

/-- The colour that a word names, in small letters: a name, six digits to the base
sixteen, a number, or a mixture. -/
def readColour (word : String) : Except NumeralError (Option String) := do
  let colour := trimmed (lower word)
  let cs := colour.toList
  let digits := cs.drop 1
  if colourNames.contains colour then return some colour
  else if cs.head? == some '#' && digits.length == 6 && digits.all isSmallHex then
    return some colour
  else if (insideCall? "color" cs).any isColourNumber then return some colour
  else match insideCall? "rgb" cs with
    | some inside => return if ← isMixture inside then some colour else none
    | none => return none

/-! ## Styles -/

/-- The attributes of text, in order. -/
def attributes : List String := [
  "bold", "dim", "italic", "underline", "blink", "blink2", "reverse", "conceal", "strike",
  "underline2", "frame", "encircle", "overline"]

/-- The short names of attributes. -/
def shortAttributes : List (String × String) := [
  ("d", "dim"), ("b", "bold"), ("i", "italic"), ("u", "underline"), ("r", "reverse"),
  ("c", "conceal"), ("s", "strike"), ("uu", "underline2"), ("o", "overline")]

/-- The attribute of a name, short or long. -/
def attribute? (name : String) : Option String :=
  if attributes.contains name then some name else shortAttributes.lookup name

/-- A style. -/
structure Style where
  /-- The attributes that are on or off, the last that was written first. -/
  attributes : List (String × Bool) := []
  colour : Option String := none
  background : Option String := none
  link : Option String := none
  deriving Repr, DecidableEq

namespace Style

/-- The style with an attribute on or off. -/
def setAttribute (s : Style) (name : String) (on : Bool) : Style :=
  { s with attributes := (name, on) :: s.attributes }

/-- The words of an attribute that a style has on or off. -/
def attributeWords (s : Style) (name : String) : List String :=
  match s.attributes.lookup name with
  | some true => [name]
  | some false => ["not", name]
  | none => []

/-- The normal form of a style. -/
def normal (s : Style) : String :=
  let background := match s.background with
    | some colour => ["on", colour]
    | none => []
  let link := match s.link with
    | some target => ["link", target]
    | none => []
  let parts := Cli.attributes.flatMap s.attributeWords ++ s.colour.toList ++ background ++ link
  if parts.isEmpty then "none" else joinWith " " parts

/-- The style with what one word says. -/
def addWord (s : Style) (word : String) : Except NumeralError (Option Style) := do
  match attribute? word with
  | some name => return some (s.setAttribute name true)
  | none => return (← readColour word).map fun colour => { s with colour := some colour }

/-- The style with what a word that needs another says with it; nothing if the word needs
none. -/
def addPair? (s : Style) (word next : String) : Option (Except NumeralError (Option Style)) :=
  match word with
  | "on" => some do
    return (← readColour next).map fun colour => { s with background := some colour }
  | "not" => some (.ok ((attribute? next).map (s.setAttribute · false)))
  | "link" => some (.ok (some { s with link := some next }))
  | _ => none

/-- The style with what words say, if they say something. -/
def addWords (s : Style) : List String → Except NumeralError (Option Style)
  | [] => .ok (some s)
  | [word] => s.addWord (lower word)
  | word :: next :: rest =>
    match s.addPair? (lower word) next with
    | some result => do
      match ← result with
      | some s => addWords s rest
      | none => return none
    | none => do
      match ← s.addWord (lower word) with
      | some s => addWords s (next :: rest)
      | none => return none

/-- The style that a text says, if it says one. -/
def ofText? (text : String) : Except NumeralError (Option Style) :=
  if trimmed text == "none" then .ok (some {}) else addWords {} (wordsOf text)

/-- The normal form of a text that says a style; other texts in small letters. -/
def normalForm (text : String) : Except NumeralError String := do
  match ← ofText? text with
  | some s => return s.normal
  | none => return lower (trimmed text)

end Style

end ContainerLint.Cli
