import RouteAudit.Number.Numeral
import RouteAudit.Text.Lower

/-!
# Colours

A colour is named, or given by its number in the palette, `color(12)`, by six hexadecimal digits,
`#00ff7f`, or by its three parts, `rgb(0,255,127)`.  Capital and small letters are the same.

`Colour.read` gives the spelling of a colour in small letters, or why a word is none.
-/

set_option autoImplicit false

namespace RouteAudit
namespace Terminal

/-- A text in small letters. -/
def small (s : List Char) : List Char :=
  (Text.lower (CodePoint.ofChars s)).map CodePoint.toChar

/-- The first eight colours of the palette. -/
def basicColours : List String :=
  ["black", "red", "green", "yellow", "blue", "magenta", "cyan", "white"]

/-- The other colours of the palette that have a name.  The greys can be spelled in two ways. -/
def paletteColours : List String := [
    "grey0", "gray0", "navy_blue", "dark_blue", "blue3", "blue1", "dark_green", "deep_sky_blue4",
    "dodger_blue3", "dodger_blue2", "green4", "spring_green4", "turquoise4", "deep_sky_blue3",
    "dodger_blue1", "green3", "spring_green3", "dark_cyan", "light_sea_green", "deep_sky_blue2",
    "deep_sky_blue1", "spring_green2", "cyan3", "dark_turquoise", "turquoise2", "green1",
    "spring_green1", "medium_spring_green", "cyan2", "cyan1", "dark_red", "deep_pink4", "purple4",
    "purple3", "blue_violet", "orange4", "grey37", "gray37", "medium_purple4", "slate_blue3",
    "royal_blue1", "chartreuse4", "dark_sea_green4", "pale_turquoise4", "steel_blue",
    "steel_blue3", "cornflower_blue", "chartreuse3", "cadet_blue", "sky_blue3", "steel_blue1",
    "pale_green3", "sea_green3", "aquamarine3", "medium_turquoise", "chartreuse2", "sea_green2",
    "sea_green1", "aquamarine1", "dark_slate_gray2", "dark_magenta", "dark_violet", "purple",
    "light_pink4", "plum4", "medium_purple3", "slate_blue1", "yellow4", "wheat4", "grey53",
    "gray53", "light_slate_grey", "light_slate_gray", "medium_purple", "light_slate_blue",
    "dark_olive_green3", "dark_sea_green", "light_sky_blue3", "sky_blue2", "dark_sea_green3",
    "dark_slate_gray3", "sky_blue1", "chartreuse1", "light_green", "pale_green1",
    "dark_slate_gray1", "red3", "medium_violet_red", "magenta3", "dark_orange3", "indian_red",
    "hot_pink3", "medium_orchid3", "medium_orchid", "medium_purple2", "dark_goldenrod",
    "light_salmon3", "rosy_brown", "grey63", "gray63", "medium_purple1", "gold3", "dark_khaki",
    "navajo_white3", "grey69", "gray69", "light_steel_blue3", "light_steel_blue", "yellow3",
    "dark_sea_green2", "light_cyan3", "light_sky_blue1", "green_yellow", "dark_olive_green2",
    "dark_sea_green1", "pale_turquoise1", "deep_pink3", "magenta2", "hot_pink2", "orchid",
    "medium_orchid1", "orange3", "light_pink3", "pink3", "plum3", "violet", "light_goldenrod3",
    "tan", "misty_rose3", "thistle3", "plum2", "khaki3", "light_goldenrod2", "light_yellow3",
    "grey84", "gray84", "light_steel_blue1", "yellow2", "dark_olive_green1", "honeydew2",
    "light_cyan1", "red1", "deep_pink2", "deep_pink1", "magenta1", "orange_red1", "indian_red1",
    "hot_pink", "dark_orange", "salmon1", "light_coral", "pale_violet_red1", "orchid2", "orchid1",
    "orange1", "sandy_brown", "light_salmon1", "light_pink1", "pink1", "plum1", "gold1",
    "navajo_white1", "misty_rose1", "thistle1", "yellow1", "light_goldenrod1", "khaki1", "wheat1",
    "cornsilk1", "grey100", "gray100", "grey3", "gray3", "grey7", "gray7", "grey11", "gray11",
    "grey15", "gray15", "grey19", "gray19", "grey23", "gray23", "grey27", "gray27", "grey30",
    "gray30", "grey35", "gray35", "grey39", "gray39", "grey42", "gray42", "grey46", "gray46",
    "grey50", "gray50", "grey54", "gray54", "grey58", "gray58", "grey62", "gray62", "grey66",
    "gray66", "grey70", "gray70", "grey74", "gray74", "grey78", "gray78", "grey82", "gray82",
    "grey85", "gray85", "grey89", "gray89", "grey93", "gray93"]

/-- The colours that have a name. -/
def namedColours : List String :=
  "default" :: basicColours ++ basicColours.map ("bright_" ++ ·) ++ paletteColours

/-- Why words do not say how a text looks. -/
inductive LookFault where
  /-- There is no such look. -/
  | meaningless
  /-- A part of a colour has no digits. -/
  | noDigits
  /-- A part of a colour has too many digits. -/
  | tooManyDigits (digits : Nat)
  deriving DecidableEq, Repr

/-- A sentence about the fault. -/
def LookFault.message : LookFault → String
  | .meaningless => "no such look"
  | .noDigits => "invalid literal for int() with base 10: ''"
  | .tooManyDigits digits =>
    "Exceeds the limit (" ++ toString Numeral.digitLimit
      ++ " digits) for integer string conversion: value has " ++ toString digits
      ++ " digits; use sys.set_int_max_str_digits() to increase the limit"

namespace Colour

/-- What stands between `front` and a closing parenthesis, if the text is nothing else. -/
def inParens? (front : String) (s : List Char) : Option (List Char) :=
  if front.toList.isPrefixOf s && s.getLast? == some ')' && front.length < s.length then
    some ((s.drop front.length).dropLast)
  else none

/-- Whether the text is six hexadecimal digits behind a mark. -/
def isHex (s : List Char) : Bool :=
  match s with
  | '#' :: ds => ds.length == 6 && ds.all (Numeral.isDigitIn 16)
  | _ => false

/-- Whether the text is the number of a colour in the palette. -/
def isNumber (s : List Char) : Bool :=
  match inParens? "color(" s with
  | none => false
  | some ds => ds.length ≤ 3 && ds.all Char.isDigit && (Numeral.natIn? 10 ds).any (· ≤ 255)

/-- The value of a part of a colour. -/
def part (ds : List Char) : Except LookFault Nat :=
  match Numeral.intIn 10 ds with
  | .ok n => .ok n.toNat
  | .error (.tooLong digits) => .error (.tooManyDigits digits)
  | .error .form => .error .noDigits

/-- Checks the parts of a colour.  That a part is a number comes before that it is not too big. -/
def checkParts (parts : List (List Char)) : Except LookFault Unit := do
  let values ← parts.mapM part
  if values.all (· ≤ 255) then .ok () else .error .meaningless

/-- Checks a colour that is given by its parts. -/
def checkMix (s : List Char) : Except LookFault Unit :=
  match inParens? "rgb(" s with
  | none => .error .meaningless
  | some body =>
    let parts := Text.splitAt (· == ',') body
    if parts.length = 3 && body.all fun c => c == ',' || (Text.decimalValue? c).isSome then
      checkParts parts
    else .error .meaningless

/-- The spelling of a colour in small letters. -/
def read (word : List Char) : Except LookFault String :=
  let s := small word
  let name := String.ofList s
  if namedColours.contains name || isHex s || isNumber s then .ok name
  else (checkMix s).map fun _ => name

end Colour
end Terminal
end RouteAudit
