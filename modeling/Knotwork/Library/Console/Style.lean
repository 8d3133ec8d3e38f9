import Knotwork.Text.Blank
import Knotwork.Text.Cut
import Knotwork.Text.Lower

/-!
Styles of shown text. Two tags belong together if their styles come to the same, so a style has a
normal form.
-/

namespace Knotwork.Console

def colorNames : List String :=
  ["black", "red", "green", "yellow", "blue", "magenta", "cyan", "white", "bright_black",
   "bright_red", "bright_green", "bright_yellow", "bright_blue", "bright_magenta", "bright_cyan",
   "bright_white", "grey0", "gray0", "navy_blue", "dark_blue", "blue3", "blue1", "dark_green",
   "deep_sky_blue4", "dodger_blue3", "dodger_blue2", "green4", "spring_green4", "turquoise4",
   "deep_sky_blue3", "dodger_blue1", "green3", "spring_green3", "dark_cyan", "light_sea_green",
   "deep_sky_blue2", "deep_sky_blue1", "spring_green2", "cyan3", "dark_turquoise", "turquoise2",
   "green1", "spring_green1", "medium_spring_green", "cyan2", "cyan1", "dark_red", "deep_pink4",
   "purple4", "purple3", "blue_violet", "orange4", "grey37", "gray37", "medium_purple4",
   "slate_blue3", "royal_blue1", "chartreuse4", "dark_sea_green4", "pale_turquoise4",
   "steel_blue", "steel_blue3", "cornflower_blue", "chartreuse3", "cadet_blue", "sky_blue3",
   "steel_blue1", "pale_green3", "sea_green3", "aquamarine3", "medium_turquoise", "chartreuse2",
   "sea_green2", "sea_green1", "aquamarine1", "dark_slate_gray2", "dark_magenta", "dark_violet",
   "purple", "light_pink4", "plum4", "medium_purple3", "slate_blue1", "yellow4", "wheat4",
   "grey53", "gray53", "light_slate_grey", "light_slate_gray", "medium_purple",
   "light_slate_blue", "dark_olive_green3", "dark_sea_green", "light_sky_blue3", "sky_blue2",
   "dark_sea_green3", "dark_slate_gray3", "sky_blue1", "chartreuse1", "light_green",
   "pale_green1", "dark_slate_gray1", "red3", "medium_violet_red", "magenta3", "dark_orange3",
   "indian_red", "hot_pink3", "medium_orchid3", "medium_orchid", "medium_purple2",
   "dark_goldenrod", "light_salmon3", "rosy_brown", "grey63", "gray63", "medium_purple1",
   "gold3", "dark_khaki", "navajo_white3", "grey69", "gray69", "light_steel_blue3",
   "light_steel_blue", "yellow3", "dark_sea_green2", "light_cyan3", "light_sky_blue1",
   "green_yellow", "dark_olive_green2", "dark_sea_green1", "pale_turquoise1", "deep_pink3",
   "magenta2", "hot_pink2", "orchid", "medium_orchid1", "orange3", "light_pink3", "pink3",
   "plum3", "violet", "light_goldenrod3", "tan", "misty_rose3", "thistle3", "plum2", "khaki3",
   "light_goldenrod2", "light_yellow3", "grey84", "gray84", "light_steel_blue1", "yellow2",
   "dark_olive_green1", "honeydew2", "light_cyan1", "red1", "deep_pink2", "deep_pink1",
   "magenta1", "orange_red1", "indian_red1", "hot_pink", "dark_orange", "salmon1", "light_coral",
   "pale_violet_red1", "orchid2", "orchid1", "orange1", "sandy_brown", "light_salmon1",
   "light_pink1", "pink1", "plum1", "gold1", "navajo_white1", "misty_rose1", "thistle1",
   "yellow1", "light_goldenrod1", "khaki1", "wheat1", "cornsilk1", "grey100", "gray100", "grey3",
   "gray3", "grey7", "gray7", "grey11", "gray11", "grey15", "gray15", "grey19", "gray19",
   "grey23", "gray23", "grey27", "gray27", "grey30", "gray30", "grey35", "gray35", "grey39",
   "gray39", "grey42", "gray42", "grey46", "gray46", "grey50", "gray50", "grey54", "gray54",
   "grey58", "gray58", "grey62", "gray62", "grey66", "gray66", "grey70", "gray70", "grey74",
   "gray74", "grey78", "gray78", "grey82", "gray82", "grey85", "gray85", "grey89", "gray89",
   "grey93", "gray93"]
def attributeNames : List Text :=
  ["bold", "dim", "italic", "underline", "blink", "blink2", "reverse", "conceal", "strike",
   "underline2", "frame", "encircle", "overline"]

def shortAttributes : List (Text × Text) :=
  [("d", "dim"), ("b", "bold"), ("i", "italic"), ("u", "underline"), ("r", "reverse"),
   ("c", "conceal"), ("s", "strike"), ("uu", "underline2"), ("o", "overline")]

def attribute? (word : Text) : Option Text :=
  if attributeNames.contains word then some word else shortAttributes.lookup word

inductive StyleError where
  | notAStyle
  | numberMissing
deriving DecidableEq

structure Style where
  attributes : List (Text × Bool) := []
  color : Option Text := none
  background : Option Text := none
  link : Option Text := none
deriving DecidableEq

def bracketsOf? (word t : Text) : Option Text :=
  match (word ++ ['(']).isPrefixOf? t with
  | some rest => if rest.getLast? = some ')' then some rest.dropLast else none
  | none => none

def numberOf (digits : Text) : Nat := digits.foldl (fun n c => n * 10 + (c.toNat - 48)) 0

def readColor (word : Text) : Except StyleError Text := do
  let color := word.lower
  let isHex (c : Char) : Bool := c.isDigit || ('a' ≤ c && c ≤ 'f')
  if color = "default" || colorNames.any (fun name => name.toList = color) then return color
  if color.head? = some '#' && color.length = 7 && color.tail.all isHex then return color
  if let some digits := bracketsOf? "color" color then
    if digits ≠ [] && digits.length ≤ 3 && digits.all Char.isDigit && numberOf digits ≤ 255 then
      return color
  if let some inside := bracketsOf? "rgb" color then
    if inside ≠ [] && inside.all fun c => c.isDigit || c = ',' then
      let parts := Text.splitOn [','] inside
      if parts.length = 3 then
        if parts.contains [] then throw .numberMissing
        if parts.all fun part => numberOf part ≤ 255 then return color
  throw .notAStyle

def readStyle : Style → List Text → Except StyleError Style
  | style, [] => .ok style
  | style, [word] => do
      let word := word.lower
      match attribute? word with
      | some name => return { style with attributes := (name, true) :: style.attributes }
      | none =>
          if word = "on" || word = "not" || word = "link" then throw .notAStyle
          return { style with color := some (← readColor word) }
  | style, original :: next :: rest => do
      let word := original.lower
      if word = "on" then readStyle { style with background := some (← readColor next) } rest
      else if word = "not" then
        match attribute? next with
        | some name => readStyle { style with attributes := (name, false) :: style.attributes } rest
        | none => throw .notAStyle
      else if word = "link" then readStyle { style with link := some next } rest
      else match attribute? word with
        | some name =>
            readStyle { style with attributes := (name, true) :: style.attributes } (next :: rest)
        | none => readStyle { style with color := some (← readColor word) } (next :: rest)

def wordsFrom (current : Text) : Text → List Text
  | [] => if current = [] then [] else [current.reverse]
  | c :: rest =>
      if Text.isBlank c then
        (if current = [] then [] else [current.reverse]) ++ wordsFrom [] rest
      else wordsFrom (c :: current) rest

def Style.render (style : Style) : Text :=
  let attributes := attributeNames.filterMap fun name =>
    (style.attributes.lookup name).map fun isOn => if isOn then name else "not " ++ name
  let parts := attributes ++ style.color.toList ++
    (style.background.toList.flatMap fun color => ["on".toList, color]) ++
    (style.link.toList.flatMap fun link => ["link".toList, link])
  if parts = [] then "none" else Text.joinWith [' '] parts

def normalName (name : Text) : Except StyleError Text :=
  if name.trim = "none" then .ok "none"
  else match readStyle {} (wordsFrom [] name) with
    | .ok style => .ok style.render
    | .error .notAStyle => .ok name.trim.lower
    | .error .numberMissing => .error .numberMissing

end Knotwork.Console
