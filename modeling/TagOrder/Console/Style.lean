import TagOrder.Text.Case
import TagOrder.Text.Digits
import TagOrder.Text.Numeral

/-!
# Styles

A style is asked for by words: attributes, each of which may be denied, a colour, a colour of the
ground and a link. Two texts ask for the same style when their normal forms are equal; a text that
asks for no style is its own normal form, but for the case of its letters and the blanks around it.
-/

namespace TagOrder

/-- The attributes of styles in their order, each with its short names. -/
def styleAttributes : List (String × List String) :=
  [("bold", ["b"]), ("dim", ["d"]), ("italic", ["i"]), ("underline", ["u"]), ("blink", []),
    ("blink2", []), ("reverse", ["r"]), ("conceal", ["c"]), ("strike", ["s"]),
    ("underline2", ["uu"]), ("frame", []), ("encircle", []), ("overline", ["o"])]

/-- The names of colours. -/
def colourNames : List String :=
  ["default", "black", "red", "green", "yellow", "blue", "magenta", "cyan", "white",
   "bright_black", "bright_red", "bright_green", "bright_yellow", "bright_blue", "bright_magenta",
    "bright_cyan", "bright_white",
   "grey0", "gray0", "navy_blue", "dark_blue", "blue3", "blue1", "dark_green", "deep_sky_blue4",
   "dodger_blue3", "dodger_blue2", "green4", "spring_green4", "turquoise4", "deep_sky_blue3",
   "dodger_blue1", "green3", "spring_green3", "dark_cyan", "light_sea_green", "deep_sky_blue2",
   "deep_sky_blue1", "spring_green2", "cyan3", "dark_turquoise", "turquoise2", "green1",
   "spring_green1", "medium_spring_green", "cyan2", "cyan1", "dark_red", "deep_pink4", "purple4",
   "purple3", "blue_violet", "orange4", "grey37", "gray37", "medium_purple4", "slate_blue3",
   "royal_blue1", "chartreuse4", "dark_sea_green4", "pale_turquoise4", "steel_blue", "steel_blue3",
   "cornflower_blue", "chartreuse3", "cadet_blue", "sky_blue3", "steel_blue1", "pale_green3",
   "sea_green3", "aquamarine3", "medium_turquoise", "chartreuse2", "sea_green2", "sea_green1",
   "aquamarine1", "dark_slate_gray2", "dark_magenta", "dark_violet", "purple", "light_pink4",
   "plum4", "medium_purple3", "slate_blue1", "yellow4", "wheat4", "grey53", "gray53",
   "light_slate_grey", "light_slate_gray", "medium_purple", "light_slate_blue", "dark_olive_green3",
   "dark_sea_green", "light_sky_blue3", "sky_blue2", "dark_sea_green3", "dark_slate_gray3",
   "sky_blue1", "chartreuse1", "light_green", "pale_green1", "dark_slate_gray1", "red3",
   "medium_violet_red", "magenta3", "dark_orange3", "indian_red", "hot_pink3", "medium_orchid3",
   "medium_orchid", "medium_purple2", "dark_goldenrod", "light_salmon3", "rosy_brown", "grey63",
   "gray63", "medium_purple1", "gold3", "dark_khaki", "navajo_white3", "grey69", "gray69",
   "light_steel_blue3", "light_steel_blue", "yellow3", "dark_sea_green2", "light_cyan3",
   "light_sky_blue1", "green_yellow", "dark_olive_green2", "dark_sea_green1", "pale_turquoise1",
   "deep_pink3", "magenta2", "hot_pink2", "orchid", "medium_orchid1", "orange3", "light_pink3",
   "pink3", "plum3", "violet", "light_goldenrod3", "tan", "misty_rose3", "thistle3", "plum2",
   "khaki3", "light_goldenrod2", "light_yellow3", "grey84", "gray84", "light_steel_blue1",
   "yellow2", "dark_olive_green1", "honeydew2", "light_cyan1", "red1", "deep_pink2", "deep_pink1",
   "magenta1", "orange_red1", "indian_red1", "hot_pink", "dark_orange", "salmon1", "light_coral",
   "pale_violet_red1", "orchid2", "orchid1", "orange1", "sandy_brown", "light_salmon1",
   "light_pink1", "pink1", "plum1", "gold1", "navajo_white1", "misty_rose1", "thistle1", "yellow1",
   "light_goldenrod1", "khaki1", "wheat1", "cornsilk1", "grey100", "gray100", "grey3", "gray3",
   "grey7", "gray7", "grey11", "gray11", "grey15", "gray15", "grey19", "gray19", "grey23", "gray23",
   "grey27", "gray27", "grey30", "gray30", "grey35", "gray35", "grey39", "gray39", "grey42",
   "gray42", "grey46", "gray46", "grey50", "gray50", "grey54", "gray54", "grey58", "gray58",
   "grey62", "gray62", "grey66", "gray66", "grey70", "gray70", "grey74", "gray74", "grey78",
   "gray78", "grey82", "gray82", "grey85", "gray85", "grey89", "gray89", "grey93", "gray93"]

/-- What a text asks for that asks for a style. -/
structure Style where
  /-- Attributes, with whether each is wanted; the first entry of one counts. -/
  attributes : List (String × Bool) := []
  colour : Option Text := none
  ground : Option Text := none
  link : Option Text := none
  deriving DecidableEq, Repr

/-- Why a text asks for no style. -/
inductive StyleFault where
  /-- It does not have the form of one. -/
  | malformed
  /-- A part of a colour is empty. -/
  | emptyPart
  deriving DecidableEq, Repr

namespace Style

/-- The attribute of a name. -/
def attribute? (word : Text) : Option String :=
  (styleAttributes.find? fun (name, shorts) =>
    (name :: shorts).any fun spelling => spelling.toList = word).map (·.1)

/-- What stands between the parentheses of a colour that is written by a function. -/
def argument? (function : String) (word : Text) : Option Text :=
  (Text.dropLead? word (function ++ "(").toList).bind fun rest => Text.dropEnd? rest [')']

/-- Whether a text writes a colour by six digits. -/
def isHexColour (word : Text) : Bool :=
  match word with
  | '#' :: digits => digits.length = 6 && digits.all (isDigitOf 16)
  | _ => false

/-- Whether a text writes a colour by its number. -/
def isNumberedColour (word : Text) : Bool :=
  match argument? "color" word with
  | some digits => 0 < digits.length && digits.length ≤ 3 && digits.all Char.isDigit
      && digitsValue digits ≤ 255
  | none => false

/-- The value of digits of any script, as far as it matters whether it is above a part of a
colour. -/
def partValue (digits : Text) : Nat :=
  digits.foldl (fun number c => min 256 (10 * number + (digitValue? c).getD 0)) 0

/-- Whether a text writes a colour by three parts, of which none may be empty. -/
def isMixedColour (word : Text) : Except StyleFault Bool :=
  match argument? "rgb" word with
  | none => .ok false
  | some inner =>
    let parts := Text.splitAt ',' inner
    if inner = [] || parts.length ≠ 3
        || !inner.all (fun c => c == ',' || (digitValue? c).isSome) then .ok false
    else if [] ∈ parts then .error .emptyPart
    else .ok (parts.all fun digits => partValue digits ≤ 255)

/-- The small form of a word that writes a colour. -/
def readColour (word : Text) : Except StyleFault Text := do
  let word := lowerFrom [] word
  if colourNames.any (fun name => name.toList = word) || isHexColour word || isNumberedColour word
      || (← isMixedColour word) then return word
  else throw .malformed

/-- A style with what some words ask for. -/
def readWords : Nat -> Style -> List Text -> Except StyleFault Style
  | 0, style, _ => .ok style
  | _, style, [] => .ok style
  | fuel + 1, style, word :: rest => do
    let small := lowerFrom [] word
    if small = "on".toList then
      match rest with
      | [] => throw .malformed
      | ground :: rest =>
        readWords fuel { style with ground := some (← readColour ground) } rest
    else if small = "not".toList then
      match (rest.head?.bind attribute?), rest with
      | some name, _ :: rest =>
        readWords fuel { style with attributes := (name, false) :: style.attributes } rest
      | _, _ => throw .malformed
    else if small = "link".toList then
      match rest with
      | [] => throw .malformed
      | link :: rest => readWords fuel { style with link := some link } rest
    else
      match attribute? small with
      | some name =>
        readWords fuel { style with attributes := (name, true) :: style.attributes } rest
      | none => readWords fuel { style with colour := some (← readColour small) } rest

/-- The words of a text, which blanks set apart. -/
def wordsOf : Nat -> Text -> List Text
  | 0, _ => []
  | fuel + 1, text =>
    match text.dropWhile blank.has with
    | [] => []
    | rest =>
      rest.takeWhile (fun c => !blank.has c) :: wordsOf fuel (rest.dropWhile fun c => !blank.has c)

/-- The style that a text asks for. -/
def read (text : Text) : Except StyleFault Style :=
  if trimBlanks text = "none".toList then .ok {}
  else
    let words := wordsOf text.length text
    readWords words.length {} words

/-- The words of a style in their order. -/
def words (style : Style) : List Text :=
  let attributes := styleAttributes.filterMap fun (name, _) =>
    (style.attributes.lookup name).map fun wanted =>
      if wanted then name.toList else "not ".toList ++ name.toList
  attributes ++ style.colour.toList ++ (style.ground.map ("on ".toList ++ ·)).toList
    ++ (style.link.map ("link ".toList ++ ·)).toList

/-- The text of a style. -/
def toText (style : Style) : Text :=
  match style.words with
  | [] => "none".toList
  | words => Text.joinWith [' '] words

/-- The normal form of a text that may ask for a style; only an empty part of a colour is a
fault. -/
def normalForm (text : Text) : Except StyleFault Text :=
  match read text with
  | .ok style => .ok style.toText
  | .error .malformed => .ok (lowerFrom [] (trimBlanks text))
  | .error .emptyPart => .error .emptyPart

end Style

end TagOrder
