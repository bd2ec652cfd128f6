import PascalWorkspace.Text.Blank
import PascalWorkspace.Text.DecimalDigit
import PascalWorkspace.Text.Lowercase

/-! Names of text styles: attributes, colours and links. A style has many spellings and one normal
form, by which the end of a marked text finds its beginning. -/
namespace PascalWorkspace.Console

def colorNames : List String := [
  "default",
  "black", "red", "green", "yellow", "blue", "magenta", "cyan", "white", "bright_black",
  "bright_red", "bright_green", "bright_yellow", "bright_blue", "bright_magenta", "bright_cyan",
  "bright_white", "grey0", "gray0", "navy_blue", "dark_blue", "blue3", "blue1", "dark_green",
  "deep_sky_blue4", "dodger_blue3", "dodger_blue2", "green4", "spring_green4", "turquoise4",
  "deep_sky_blue3", "dodger_blue1", "green3", "spring_green3", "dark_cyan", "light_sea_green",
  "deep_sky_blue2", "deep_sky_blue1", "spring_green2", "cyan3", "dark_turquoise", "turquoise2",
  "green1", "spring_green1", "medium_spring_green", "cyan2", "cyan1", "dark_red", "deep_pink4",
  "purple4", "purple3", "blue_violet", "orange4", "grey37", "gray37", "medium_purple4",
  "slate_blue3", "royal_blue1", "chartreuse4", "dark_sea_green4", "pale_turquoise4", "steel_blue",
  "steel_blue3", "cornflower_blue", "chartreuse3", "cadet_blue", "sky_blue3", "steel_blue1",
  "pale_green3", "sea_green3", "aquamarine3", "medium_turquoise", "chartreuse2", "sea_green2",
  "sea_green1", "aquamarine1", "dark_slate_gray2", "dark_magenta", "dark_violet", "purple",
  "light_pink4", "plum4", "medium_purple3", "slate_blue1", "yellow4", "wheat4", "grey53",
  "gray53", "light_slate_grey", "light_slate_gray", "medium_purple", "light_slate_blue",
  "dark_olive_green3", "dark_sea_green", "light_sky_blue3", "sky_blue2", "dark_sea_green3",
  "dark_slate_gray3", "sky_blue1", "chartreuse1", "light_green", "pale_green1",
  "dark_slate_gray1", "red3", "medium_violet_red", "magenta3", "dark_orange3", "indian_red",
  "hot_pink3", "medium_orchid3", "medium_orchid", "medium_purple2", "dark_goldenrod",
  "light_salmon3", "rosy_brown", "grey63", "gray63", "medium_purple1", "gold3", "dark_khaki",
  "navajo_white3", "grey69", "gray69", "light_steel_blue3", "light_steel_blue", "yellow3",
  "dark_sea_green2", "light_cyan3", "light_sky_blue1", "green_yellow", "dark_olive_green2",
  "dark_sea_green1", "pale_turquoise1", "deep_pink3", "magenta2", "hot_pink2", "orchid",
  "medium_orchid1", "orange3", "light_pink3", "pink3", "plum3", "violet", "light_goldenrod3",
  "tan", "misty_rose3", "thistle3", "plum2", "khaki3", "light_goldenrod2", "light_yellow3",
  "grey84", "gray84", "light_steel_blue1", "yellow2", "dark_olive_green1", "honeydew2",
  "light_cyan1", "red1", "deep_pink2", "deep_pink1", "magenta1", "orange_red1", "indian_red1",
  "hot_pink", "dark_orange", "salmon1", "light_coral", "pale_violet_red1", "orchid2", "orchid1",
  "orange1", "sandy_brown", "light_salmon1", "light_pink1", "pink1", "plum1", "gold1",
  "navajo_white1", "misty_rose1", "thistle1", "yellow1", "light_goldenrod1", "khaki1", "wheat1",
  "cornsilk1", "grey100", "gray100", "grey3", "gray3", "grey7", "gray7", "grey11", "gray11",
  "grey15", "gray15", "grey19", "gray19", "grey23", "gray23", "grey27", "gray27", "grey30",
  "gray30", "grey35", "gray35", "grey39", "gray39", "grey42", "gray42", "grey46", "gray46",
  "grey50", "gray50", "grey54", "gray54", "grey58", "gray58", "grey62", "gray62", "grey66",
  "gray66", "grey70", "gray70", "grey74", "gray74", "grey78", "gray78", "grey82", "gray82",
  "grey85", "gray85", "grey89", "gray89", "grey93", "gray93"]

/-- Each attribute with its short names, in the order of the normal form. -/
def attributeNames : List (String × List String) := [
  ("bold", ["b"]), ("dim", ["d"]), ("italic", ["i"]), ("underline", ["u"]), ("blink", []),
  ("blink2", []), ("reverse", ["r"]), ("conceal", ["c"]), ("strike", ["s"]), ("underline2", ["uu"]),
  ("frame", []), ("encircle", []), ("overline", ["o"])]

namespace Style

def attribute? (word : String) : Option String :=
  (attributeNames.find? fun a => a.1 == word || a.2.contains word).map (·.1)

def isHexDigit (c : Char) : Bool := c.isDigit || 'a' ≤ c && c ≤ 'f'

/-- What stands between a start and a closing parenthesis at the end. -/
def inParentheses? (start : String) (cs : List Char) : Option (List Char) :=
  let opening := start.toList ++ ['(']
  if opening.isPrefixOf cs ∧ cs.getLast? = some ')' ∧ opening.length < cs.length then
    some ((cs.drop opening.length).dropLast)
  else none

/-- The largest value of one part of a colour. -/
def maxPart : Nat := 255

def number (digits : List Char) : Nat :=
  digits.foldl (fun n c => 10 * n + (Text.decimalDigit? c).getD 0) 0

def splitCommas : List Char → List (List Char)
  | [] => [[]]
  | ',' :: rest => [] :: splitCommas rest
  | c :: rest =>
    match splitCommas rest with
    | [] => [[c]]
    | piece :: others => (c :: piece) :: others

/-- Whether a word is a colour. A colour whose parts are left out is a fault of its own. -/
inductive ColorReading where
  | color
  | other
  | partMissing
  deriving DecidableEq, Repr

def readParts (content : List Char) : ColorReading :=
  let isPartChar (c : Char) := c == ',' || (Text.decimalDigit? c).isSome
  if content.isEmpty || !content.all isPartChar then .other
  else
    let parts := splitCommas content
    if parts.length ≠ 3 then .other
    else if parts.any (·.isEmpty) then .partMissing
    else if parts.all fun p => number p ≤ maxPart then .color
    else .other

/-- Reads a colour: by name, by number, or by its parts. -/
def readColor (word : String) : ColorReading :=
  let cs := word.toList
  match cs with
  | '#' :: digits => if digits.length = 6 ∧ digits.all isHexDigit then .color else .other
  | _ =>
    if colorNames.contains word then .color
    else match inParentheses? "color" cs with
      | some content =>
        if !content.isEmpty ∧ content.length ≤ 3 ∧ content.all Char.isDigit ∧
          number content ≤ maxPart then .color else .other
      | none => ((inParentheses? "rgb" cs).map readParts).getD .other

end Style

/-- A style: attributes that are switched on or off, colours and a link. -/
structure Style where
  attributes : List (String × Bool) := []
  color : Option String := none
  background : Option String := none
  link : Option String := none
  deriving Repr

inductive StyleError where
  /-- The words are not those of a style. -/
  | unknown
  | partMissing
  deriving DecidableEq, Repr

namespace Style

def words : List Char → List Char → List String
  | current, [] => if current.isEmpty then [] else [String.ofList current.reverse]
  | current, c :: rest =>
    if Text.isBlank c then
      if current.isEmpty then words [] rest else String.ofList current.reverse :: words [] rest
    else words (c :: current) rest

def setAttribute (s : Style) (name : String) (value : Bool) : Style :=
  { s with attributes := (name, value) :: s.attributes }

/-- A word as a colour, in lower case. -/
def asColor (word : String) : Except StyleError String :=
  let lower := Text.lowercase word
  match readColor lower with
  | .color => .ok lower
  | .other => .error .unknown
  | .partMissing => .error .partMissing

def readWords (s : Style) : List String → Except StyleError Style
  | [] => .ok s
  | word :: rest =>
    let lower := Text.lowercase word
    if lower = "on" then
      match rest with
      | [] => .error .unknown
      | color :: rest => do
        let name ← asColor color
        readWords { s with background := some name } rest
    else if lower = "not" then
      match rest with
      | [] => .error .unknown
      | negated :: rest =>
        match attribute? negated with
        | some name => readWords (s.setAttribute name false) rest
        | none => .error .unknown
    else if lower = "link" then
      match rest with
      | [] => .error .unknown
      | link :: rest => readWords { s with link := some link } rest
    else
      match attribute? lower with
      | some name => readWords (s.setAttribute name true) rest
      | none => do
        let name ← asColor lower
        readWords { s with color := some name } rest

def read (text : String) : Except StyleError Style :=
  match words [] text.toList with
  | ["none"] => .ok {}
  | found => readWords {} found

def attributeText (s : Style) (name : String) : Option String :=
  (s.attributes.lookup name).map fun on => if on then name else "not " ++ name

/-- The normal form of a style. -/
def text (s : Style) : String :=
  let attributes := attributeNames.filterMap fun a => s.attributeText a.1
  let colors := s.color.toList ++ (s.background.map ("on " ++ ·)).toList
  let all := attributes ++ colors ++ (s.link.map ("link " ++ ·)).toList
  if all.isEmpty then "none" else " ".intercalate all

/-- The normal form of a name; one that is not that of a style is put in lower case. -/
def normalName (name : String) : Except StyleError String :=
  match read name with
  | .ok s => .ok s.text
  | .error .unknown => .ok (Text.lowercase (String.ofList (Text.trimBlank name.toList)))
  | .error .partMissing => .error .partMissing

end Style

end PascalWorkspace.Console
