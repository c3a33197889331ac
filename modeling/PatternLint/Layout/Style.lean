import PatternLint.Text.Blank
import PatternLint.Text.Letter
import PatternLint.Text.LetterCase
import PatternLint.Text.Lines

/-!
# Styles

A style is written in words: attributes, a color, `on` and a color behind the text, `link` and an address.
Two definitions of a style come to the same `normalForm`; one that is no style is its own, in small letters.
-/

namespace PatternLint.Layout

open PatternLint.Text

/-- Why a definition is no style. -/
inductive StyleFault
  | unknown
  /-- A part of a color is no number. -/
  | notNumber (text : String)
  deriving DecidableEq, Repr

/-! ## Colors -/

/-- Colors by name. -/
def colorNames : List String :=
  ["black", "red", "green", "yellow", "blue", "magenta", "cyan", "white", "bright_black", "bright_red",
    "bright_green", "bright_yellow", "bright_blue", "bright_magenta", "bright_cyan", "bright_white",
    "grey0", "gray0", "navy_blue", "dark_blue", "blue3", "blue1", "dark_green", "deep_sky_blue4",
    "dodger_blue3", "dodger_blue2", "green4", "spring_green4", "turquoise4", "deep_sky_blue3",
    "dodger_blue1", "dark_cyan", "light_sea_green", "deep_sky_blue2", "deep_sky_blue1", "green3",
    "spring_green3", "cyan3", "dark_turquoise", "turquoise2", "green1", "spring_green2",
    "spring_green1", "medium_spring_green", "cyan2", "cyan1", "purple4", "purple3", "blue_violet",
    "grey37", "gray37", "medium_purple4", "slate_blue3", "royal_blue1", "chartreuse4",
    "pale_turquoise4", "steel_blue", "steel_blue3", "cornflower_blue", "dark_sea_green4", "cadet_blue",
    "sky_blue3", "chartreuse3", "sea_green3", "aquamarine3", "medium_turquoise", "steel_blue1",
    "sea_green2", "sea_green1", "dark_slate_gray2", "dark_red", "dark_magenta", "orange4",
    "light_pink4", "plum4", "medium_purple3", "slate_blue1", "wheat4", "grey53", "gray53",
    "light_slate_grey", "light_slate_gray", "medium_purple", "light_slate_blue", "yellow4",
    "dark_sea_green", "light_sky_blue3", "sky_blue2", "chartreuse2", "pale_green3", "dark_slate_gray3",
    "sky_blue1", "chartreuse1", "light_green", "aquamarine1", "dark_slate_gray1", "deep_pink4",
    "medium_violet_red", "dark_violet", "purple", "medium_orchid3", "medium_orchid", "dark_goldenrod",
    "rosy_brown", "grey63", "gray63", "medium_purple2", "medium_purple1", "dark_khaki", "navajo_white3",
    "grey69", "gray69", "light_steel_blue3", "light_steel_blue", "dark_olive_green3", "dark_sea_green3",
    "light_cyan3", "light_sky_blue1", "green_yellow", "dark_olive_green2", "pale_green1",
    "dark_sea_green2", "pale_turquoise1", "red3", "deep_pink3", "magenta3", "dark_orange3",
    "indian_red", "hot_pink3", "hot_pink2", "orchid", "orange3", "light_salmon3", "light_pink3",
    "pink3", "plum3", "violet", "gold3", "light_goldenrod3", "tan", "misty_rose3", "thistle3", "plum2",
    "yellow3", "khaki3", "light_yellow3", "grey84", "gray84", "light_steel_blue1", "yellow2",
    "dark_olive_green1", "dark_sea_green1", "honeydew2", "light_cyan1", "red1", "deep_pink2",
    "deep_pink1", "magenta2", "magenta1", "orange_red1", "indian_red1", "hot_pink", "medium_orchid1",
    "dark_orange", "salmon1", "light_coral", "pale_violet_red1", "orchid2", "orchid1", "orange1",
    "sandy_brown", "light_salmon1", "light_pink1", "pink1", "plum1", "gold1", "light_goldenrod2",
    "navajo_white1", "misty_rose1", "thistle1", "yellow1", "light_goldenrod1", "khaki1", "wheat1",
    "cornsilk1", "grey100", "gray100", "grey3", "gray3", "grey7", "gray7", "grey11", "gray11", "grey15",
    "gray15", "grey19", "gray19", "grey23", "gray23", "grey27", "gray27", "grey30", "gray30", "grey35",
    "gray35", "grey39", "gray39", "grey42", "gray42", "grey46", "gray46", "grey50", "gray50", "grey54",
    "gray54", "grey58", "gray58", "grey62", "gray62", "grey66", "gray66", "grey70", "gray70", "grey74",
    "gray74", "grey78", "gray78", "grey82", "gray82", "grey85", "gray85", "grey89", "gray89", "grey93",
    "gray93"]

def isColorName (name : List Char) : Bool :=
  name == "default".toList || colorNames.contains (String.ofList name)

def isHexDigit (c : Char) : Bool := isAsciiDigit c.toNat || ('a' ≤ c && c ≤ 'f')

/-- Six digits behind a hash sign. -/
def isHexColor : List Char → Bool
  | '#' :: digits => digits.length == 6 && digits.all isHexDigit
  | _ => false

/-- What stands between a beginning and the bracket that closes the text. -/
def argument? (front : String) (s : List Char) : Option (List Char) :=
  if front.toList.isPrefixOf s && s.getLast? == some ')' then some (s.drop front.length).dropLast
  else none

/-- The number of decimal digits. -/
def decimal? : List Char → Option Nat
  | [] => none
  | digits => digits.foldlM (fun n c => (digitValue? c.toNat).map (10 * n + ·)) 0

/-- A color with its number in a palette. -/
def isPaletteColor (digits : List Char) : Bool :=
  digits.length ≤ 3 && digits.all (fun c => isAsciiDigit c.toNat) &&
    (decimal? digits).any (· ≤ 255)

/-- A part of a color. -/
def colorPart (s : List Char) : Except StyleFault Nat :=
  match decimal? (strip s) with
  | some n => .ok n
  | none => .error (.notNumber (String.ofList s))

/-- A color of three parts. -/
def mixedColor (inside : List Char) : Except StyleFault (List Nat) := do
  if inside.isEmpty || inside.any fun c => !(c == ',' || Blank c || isDecimal c.toNat) then
    .error .unknown
  let inside := splitOn ',' inside
  if inside.length != 3 then .error .unknown
  let amounts ← inside.mapM colorPart
  if amounts.all (· ≤ 255) then .ok amounts else .error .unknown

/-- The name of the color that a word stands for. -/
def readColor (word : List Char) : Except StyleFault (List Char) :=
  let name := toLower word
  if isColorName name || isHexColor name then .ok name
  else
    match argument? "color(" name, argument? "rgb(" name with
    | some digits, _ => if isPaletteColor digits then .ok name else .error .unknown
    | none, some inside => (mixedColor inside).map fun _ => name
    | none, none => .error .unknown

/-! ## Definitions -/

/-- The attributes, in the order in which they are written. -/
def attributeOrder : List String :=
  ["bold", "dim", "italic", "underline", "blink", "blink2", "reverse", "conceal", "strike", "underline2",
    "frame", "encircle", "overline"]

/-- The words for the attributes. -/
def attributeWords : List (String × String) :=
  attributeOrder.map (fun name => (name, name)) ++
    [("b", "bold"), ("d", "dim"), ("i", "italic"), ("u", "underline"), ("r", "reverse"), ("c", "conceal"),
      ("s", "strike"), ("uu", "underline2"), ("o", "overline")]

/-- The attribute that a word stands for. -/
def attribute? (word : List Char) : Option String :=
  (attributeWords.find? fun entry => entry.1.toList == word).map (·.2)

structure Style where
  /-- The attributes that are switched on or off, the latest first. -/
  attributes : List (String × Bool)
  color : Option (List Char)
  background : Option (List Char)
  link : Option (List Char)

namespace Style

def empty : Style := ⟨[], none, none, none⟩

/-- The style with an attribute switched on or off. -/
def switch (s : Style) (name : String) (on : Bool) : Style :=
  { s with attributes := (name, on) :: s.attributes }

/-- The words of a style as it is written. -/
def words (s : Style) : List (List Char) :=
  let attributes := attributeOrder.filterMap fun name =>
    (s.attributes.lookup name).map fun on => if on then name.toList else ("not " ++ name).toList
  attributes ++ s.color.toList ++ (s.background.map ("on ".toList ++ ·)).toList ++
    (s.link.map ("link ".toList ++ ·)).toList

/-- The style as it is written. -/
def text (s : Style) : List Char :=
  if s.words.isEmpty then "none".toList else List.intercalate [' '] s.words

/-- The style that words make of another one. -/
def extend (s : Style) : List (List Char) → Except StyleFault Style
  | [] => .ok s
  | word :: rest =>
    let key := toLower word
    if key = "on".toList then
      match rest with
      | [] => .error .unknown
      | color :: rest =>
        match readColor color with
        | .error e => .error e
        | .ok name => extend { s with background := some name } rest
    else if key = "not".toList then
      match rest with
      | [] => .error .unknown
      | word :: rest =>
        match attribute? word with
        | none => .error .unknown
        | some name => extend (s.switch name false) rest
    else if key = "link".toList then
      match rest with
      | [] => .error .unknown
      | address :: rest => extend { s with link := some address } rest
    else
      match attribute? key with
      | some name => extend (s.switch name true) rest
      | none =>
        match readColor key with
        | .error e => .error e
        | .ok name => extend { s with color := some name } rest

/-- The style of a definition. -/
def ofDefinition (definition : List Char) : Except StyleFault Style :=
  if strip definition = "none".toList then .ok empty else empty.extend (blankWords definition)

end Style

/-- The normal form of a definition, or the part of a color in it that is no number. -/
def normalForm (definition : List Char) : Except String (List Char) :=
  match Style.ofDefinition definition with
  | .ok style => .ok style.text
  | .error (.notNumber text) => .error text
  | .error .unknown => .ok (toLower (strip definition))

end PatternLint.Layout
