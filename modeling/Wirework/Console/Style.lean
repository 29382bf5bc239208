import Wirework.Number.Reading
import Wirework.Text.Blank
import Wirework.Text.Case

/-!
# Styles

The styles that tags on the console set: attributes such as `bold`, a color, the color of the
background, and a link. Styles with the same effect have one spelling, `Style.spelling`, so that a tag
may be closed by another spelling of its style.
-/

namespace Wirework.Color

/-!
## Names of colors

The names of the colors of a terminal, in the order of their numbers.
-/

def names : List String := Text.words "
 black red green yellow blue magenta cyan white bright_black bright_red bright_green
 bright_yellow bright_blue bright_magenta bright_cyan bright_white gray0 grey0 navy_blue
 dark_blue blue3 blue1 dark_green deep_sky_blue4 dodger_blue3 dodger_blue2 green4 spring_green4
 turquoise4 deep_sky_blue3 dodger_blue1 dark_cyan light_sea_green deep_sky_blue2 deep_sky_blue1
 green3 spring_green3 cyan3 dark_turquoise turquoise2 green1 spring_green2 spring_green1
 medium_spring_green cyan2 cyan1 purple4 purple3 blue_violet gray37 grey37 medium_purple4
 slate_blue3 royal_blue1 chartreuse4 pale_turquoise4 steel_blue steel_blue3 cornflower_blue
 dark_sea_green4 cadet_blue sky_blue3 chartreuse3 sea_green3 aquamarine3 medium_turquoise
 steel_blue1 sea_green2 sea_green1 dark_slate_gray2 dark_red dark_magenta orange4 light_pink4
 plum4 medium_purple3 slate_blue1 wheat4 gray53 grey53 light_slate_gray light_slate_grey
 medium_purple light_slate_blue yellow4 dark_sea_green light_sky_blue3 sky_blue2 chartreuse2
 pale_green3 dark_slate_gray3 sky_blue1 chartreuse1 light_green aquamarine1 dark_slate_gray1
 deep_pink4 medium_violet_red dark_violet purple medium_orchid3 medium_orchid dark_goldenrod
 rosy_brown gray63 grey63 medium_purple2 medium_purple1 dark_khaki navajo_white3 gray69 grey69
 light_steel_blue3 light_steel_blue dark_olive_green3 dark_sea_green3 light_cyan3
 light_sky_blue1 green_yellow dark_olive_green2 pale_green1 dark_sea_green2 pale_turquoise1 red3
 deep_pink3 magenta3 dark_orange3 indian_red hot_pink3 hot_pink2 orchid orange3 light_salmon3
 light_pink3 pink3 plum3 violet gold3 light_goldenrod3 tan misty_rose3 thistle3 plum2 yellow3
 khaki3 light_yellow3 gray84 grey84 light_steel_blue1 yellow2 dark_olive_green1 dark_sea_green1
 honeydew2 light_cyan1 red1 deep_pink2 deep_pink1 magenta2 magenta1 orange_red1 indian_red1
 hot_pink medium_orchid1 dark_orange salmon1 light_coral pale_violet_red1 orchid2 orchid1
 orange1 sandy_brown light_salmon1 light_pink1 pink1 plum1 gold1 light_goldenrod2 navajo_white1
 misty_rose1 thistle1 yellow1 light_goldenrod1 khaki1 wheat1 cornsilk1 gray100 grey100 gray3
 grey3 gray7 grey7 gray11 grey11 gray15 grey15 gray19 grey19 gray23 grey23 gray27 grey27 gray30
 grey30 gray35 grey35 gray39 grey39 gray42 grey42 gray46 grey46 gray50 grey50 gray54 grey54
 gray58 grey58 gray62 grey62 gray66 grey66 gray70 grey70 gray74 grey74 gray78 grey78 gray82
 grey82 gray85 grey85 gray89 grey89 gray93 grey93"

end Wirework.Color

namespace Wirework

inductive Style.Error where
  /-- It has a word that means nothing. -/
  | unknown
  /-- It has a color of which a component is no number. -/
  | number
  deriving DecidableEq

/-! ## Colors -/

namespace Color

def between? (opening closing text : List Char) : Option (List Char) :=
  if opening.isPrefixOf text && closing.isSuffixOf text && opening.length < text.length then
    some ((text.drop opening.length).take (text.length - opening.length - closing.length))
  else none

/-- The components of a color, which are up to 255. -/
def checkComponents (components : List (List Char)) : Except Style.Error Unit := do
  if components.length ≠ 3 then throw .unknown
  let values ← components.mapM fun cs =>
    match Number.int? (String.ofList cs) with
    | some n => pure n
    | none => throw .number
  if values.any (255 < ·) then throw .unknown

/-- The spelling of a color: a name, six hexadecimal digits, a number or three components. -/
def read (word : String) : Except Style.Error String := do
  let name := Text.lower word
  let cs := name.toList
  let isHex := fun c : Char => c.isDigit || ('a' ≤ c && c ≤ 'f')
  if name = "default" || names.contains name then return name
  if let '#' :: digits := cs then
    if digits.length = 6 && digits.all isHex then return name
  if let some digits := between? "color(".toList [')'] cs then
    if digits.all Char.isDigit && 1 ≤ digits.length && digits.length ≤ 3
        && Number.ofDigits 10 (digits.filterMap Number.asciiDigit?) ≤ 255 then
      return name
  if let some inner := between? "rgb(".toList [')'] cs then
    if !inner.isEmpty && inner.all fun c => c = ',' || Text.isDecimalDigit c then
      checkComponents (inner.splitOn ',')
      return name
  throw .unknown

end Color

/-! ## Styles -/

structure Style where
  /-- Attributes that are set or unset, the latest first. -/
  attributes : List (String × Bool) := []
  color : Option String := none
  background : Option String := none
  link : Option String := none
  deriving DecidableEq

namespace Style

/-- The attributes of texts, in the order in which a style lists them, with a short form. -/
def attributeNames : List (String × String) := [
  ("bold", "b"), ("dim", "d"), ("italic", "i"), ("underline", "u"), ("blink", "blink"),
  ("blink2", "blink2"), ("reverse", "r"), ("conceal", "c"), ("strike", "s"), ("underline2", "uu"),
  ("frame", "frame"), ("encircle", "encircle"), ("overline", "o")]

def attribute? (word : String) : Option String :=
  (attributeNames.find? fun (name, short) => word = name || word = short).map (·.1)

def set (s : Style) (name : String) (value : Bool) : Style :=
  { s with attributes := (name, value) :: s.attributes }

def readWords (s : Style) : List String → Except Error Style
  | [] => return s
  | word :: rest =>
    match Text.lower word, rest with
    | "on", color :: rest => do
      let color ← Color.read color
      { s with background := some color }.readWords rest
    | "not", target :: rest =>
      match attribute? target with
      | some name => (s.set name false).readWords rest
      | none => throw .unknown
    | "link", target :: rest => { s with link := some target }.readWords rest
    | lowered, rest =>
      match attribute? lowered with
      | some name => (s.set name true).readWords rest
      | none => do
        let color ← Color.read lowered
        { s with color := some color }.readWords rest

/-- A style in words: its attributes in order, its color, its background and its link. -/
def words (s : Style) : List String :=
  (attributeNames.flatMap fun (name, _) =>
    match s.attributes.lookup name with
    | some true => [name]
    | some false => ["not", name]
    | none => [])
  ++ s.color.toList
  ++ (s.background.map fun color => ["on", color]).getD []
  ++ (s.link.map fun target => ["link", target]).getD []

def text (s : Style) : String :=
  if s.words.isEmpty then "none" else " ".intercalate s.words

def parse (definition : String) : Except Error Style :=
  let ws := Text.words definition
  if ws = ["none"] then return {} else ({} : Style).readWords ws

/-- The one spelling of a style. What is no style is spelled in lower case. -/
def spelling (definition : List Char) : Except Error String :=
  let trimmed := String.ofList (Text.trim definition)
  match parse trimmed with
  | .ok s => return s.text
  | .error .unknown => return Text.lower trimmed
  | .error .number => throw .number

end Style

end Wirework
