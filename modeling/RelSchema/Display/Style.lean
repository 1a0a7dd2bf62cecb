import RelSchema.Number.Integer
import RelSchema.Text.Case
import RelSchema.Text.Trim

/-!
The names of the colors of a terminal.
-/
namespace RelSchema.Display

/-- The names, with blanks between them. -/
def colorNames : String :=
  "
    black red green yellow blue magenta cyan white bright_black bright_red bright_green
    bright_yellow bright_blue bright_magenta bright_cyan bright_white grey0 gray0 navy_blue
    dark_blue blue3 blue1 dark_green deep_sky_blue4 dodger_blue3 dodger_blue2 green4 spring_green4
    turquoise4 deep_sky_blue3 dodger_blue1 green3 spring_green3 dark_cyan light_sea_green
    deep_sky_blue2 deep_sky_blue1 spring_green2 cyan3 dark_turquoise turquoise2 green1
    spring_green1 medium_spring_green cyan2 cyan1 dark_red deep_pink4 purple4 purple3 blue_violet
    orange4 grey37 gray37 medium_purple4 slate_blue3 royal_blue1 chartreuse4 dark_sea_green4
    pale_turquoise4 steel_blue steel_blue3 cornflower_blue chartreuse3 cadet_blue sky_blue3
    steel_blue1 pale_green3 sea_green3 aquamarine3 medium_turquoise chartreuse2 sea_green2
    sea_green1 aquamarine1 dark_slate_gray2 dark_magenta dark_violet purple light_pink4 plum4
    medium_purple3 slate_blue1 yellow4 wheat4 grey53 gray53 light_slate_grey light_slate_gray
    medium_purple light_slate_blue dark_olive_green3 dark_sea_green light_sky_blue3 sky_blue2
    dark_sea_green3 dark_slate_gray3 sky_blue1 chartreuse1 light_green pale_green1
    dark_slate_gray1 red3 medium_violet_red magenta3 dark_orange3 indian_red hot_pink3
    medium_orchid3 medium_orchid medium_purple2 dark_goldenrod light_salmon3 rosy_brown grey63
    gray63 medium_purple1 gold3 dark_khaki navajo_white3 grey69 gray69 light_steel_blue3
    light_steel_blue yellow3 dark_sea_green2 light_cyan3 light_sky_blue1 green_yellow
    dark_olive_green2 dark_sea_green1 pale_turquoise1 deep_pink3 magenta2 hot_pink2 orchid
    medium_orchid1 orange3 light_pink3 pink3 plum3 violet light_goldenrod3 tan misty_rose3
    thistle3 plum2 khaki3 light_goldenrod2 light_yellow3 grey84 gray84 light_steel_blue1 yellow2
    dark_olive_green1 honeydew2 light_cyan1 red1 deep_pink2 deep_pink1 magenta1 orange_red1
    indian_red1 hot_pink dark_orange salmon1 light_coral pale_violet_red1 orchid2 orchid1 orange1
    sandy_brown light_salmon1 light_pink1 pink1 plum1 gold1 navajo_white1 misty_rose1 thistle1
    yellow1 light_goldenrod1 khaki1 wheat1 cornsilk1 grey100 gray100 grey3 gray3 grey7 gray7
    grey11 gray11 grey15 gray15 grey19 gray19 grey23 gray23 grey27 gray27 grey30 gray30 grey35
    gray35 grey39 gray39 grey42 gray42 grey46 gray46 grey50 gray50 grey54 gray54 grey58 gray58
    grey62 gray62 grey66 gray66 grey70 gray70 grey74 gray74 grey78 gray78 grey82 gray82 grey85
    gray85 grey89 gray89 grey93 gray93"

/-!
Styles of texts by their names: attributes that are on or off, a color, the color of the ground and
a link. Two names of one style are told from names of other styles by a usual form.
-/

/-- The attributes in the order in which a usual form tells them, with short names. -/
def attributeNames : List (String × List String) := [
  ("bold", ["b"]), ("dim", ["d"]), ("italic", ["i"]), ("underline", ["u"]), ("blink", []),
  ("blink2", []), ("reverse", ["r"]), ("conceal", ["c"]), ("strike", ["s"]),
  ("underline2", ["uu"]), ("frame", []), ("encircle", []), ("overline", ["o"])]

def attribute? (word : String) : Option String :=
  (attributeNames.find? fun (name, short) => name == word || short.contains word).map (·.1)

/-- The text between a start and a closing parenthesis. -/
def argument? (start : String) (word : List Char) : Option (List Char) :=
  match (Text.dropPrefix? start.toList word).map List.reverse with
  | some (')' :: argument) => some argument.reverse
  | _ => none

/-- A number of at most 255. -/
def isByte (s : List Char) : Bool :=
  match Number.readInt 10 s with
  | .ok n => 0 ≤ n && n ≤ 255
  | .error _ => false

/-- Whether a word in lower case is a color: a name, six hexadecimal digits, or numbers. -/
def isColor (word : String) : Bool :=
  let s := word.toList
  let isName := word == "default" || (Text.words colorNames.toList).contains s
  let isHex := s.length == 7 && s.head? == some '#' && (s.drop 1).all Number.isHexDigit
  let isNumbered := (argument? "color(" s).any fun argument =>
    1 ≤ argument.length && argument.length ≤ 3 && argument.all Char.isDigit && isByte argument
  let isMixed := (argument? "rgb(" s).any fun argument =>
    argument.all (fun c => c == ',' || Text.isDecimal c) &&
      (Text.splitAt ',' argument).length == 3 && (Text.splitAt ',' argument).all isByte
  isName || isHex || isNumbered || isMixed

structure Style where
  attributes : List (String × Bool) := []
  color : Option String := none
  ground : Option String := none
  link : Option String := none

namespace Style

def withAttribute (name : String) (isOn : Bool) (style : Style) : Style :=
  { style with attributes := (name, isOn) :: style.attributes }

/-- The style with what words say; of two that say the same the later one counts. -/
def read? (style : Style) : List String → Option Style
  | [] => some style
  | word :: rest =>
    match Text.lower word, rest with
    | "on", [] | "not", [] | "link", [] => none
    | "on", ground :: rest =>
      if isColor (Text.lower ground) then
        read? { style with ground := some (Text.lower ground) } rest
      else none
    | "not", name :: rest => do read? (style.withAttribute (← attribute? name) false) rest
    | "link", link :: rest => read? { style with link := some link } rest
    | word, rest =>
      match attribute? word with
      | some name => read? (style.withAttribute name true) rest
      | none => if isColor word then read? { style with color := some word } rest else none

def words (style : Style) : List String :=
  attributeNames.filterMap (fun (name, _) =>
    (style.attributes.lookup name).map fun isOn => if isOn then name else "not " ++ name) ++
  style.color.toList ++ (style.ground.map ("on " ++ ·)).toList ++
  (style.link.map ("link " ++ ·)).toList

/-- The usual form of the name of a style, or the name in lower case if it is none. -/
def usualName (name : List Char) : String :=
  match read? {} ((Text.words name).map String.ofList) with
  | some style => if style.words.isEmpty then "none" else Text.joinWith " " style.words
  | none => Text.lower (.ofList (Text.trim name))

end Style

end RelSchema.Display
