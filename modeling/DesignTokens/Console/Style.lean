import DesignTokens.Text.Ascii
import DesignTokens.Text.DecimalDigit
import DesignTokens.Text.LowerCase
import DesignTokens.Text.Blank

/-!
Styles of console text.  Two descriptions of one style have the same normal form.
-/

namespace DesignTokens.Console

def colorNames : List String := [
  "black red green yellow blue magenta cyan white bright_black bright_red bright_green",
  "bright_yellow bright_blue bright_magenta bright_cyan bright_white grey0 gray0 navy_blue",
  "dark_blue blue3 blue1 dark_green deep_sky_blue4 dodger_blue3 dodger_blue2 green4",
  "spring_green4 turquoise4 deep_sky_blue3 dodger_blue1 green3 spring_green3 dark_cyan",
  "light_sea_green deep_sky_blue2 deep_sky_blue1 spring_green2 cyan3 dark_turquoise turquoise2",
  "green1 spring_green1 medium_spring_green cyan2 cyan1 dark_red deep_pink4 purple4 purple3",
  "blue_violet orange4 grey37 gray37 medium_purple4 slate_blue3 royal_blue1 chartreuse4",
  "dark_sea_green4 pale_turquoise4 steel_blue steel_blue3 cornflower_blue chartreuse3",
  "cadet_blue sky_blue3 steel_blue1 pale_green3 sea_green3 aquamarine3 medium_turquoise",
  "chartreuse2 sea_green2 sea_green1 aquamarine1 dark_slate_gray2 dark_magenta dark_violet",
  "purple light_pink4 plum4 medium_purple3 slate_blue1 yellow4 wheat4 grey53 gray53",
  "light_slate_grey light_slate_gray medium_purple light_slate_blue dark_olive_green3",
  "dark_sea_green light_sky_blue3 sky_blue2 dark_sea_green3 dark_slate_gray3 sky_blue1",
  "chartreuse1 light_green pale_green1 dark_slate_gray1 red3 medium_violet_red magenta3",
  "dark_orange3 indian_red hot_pink3 medium_orchid3 medium_orchid medium_purple2 dark_goldenrod",
  "light_salmon3 rosy_brown grey63 gray63 medium_purple1 gold3 dark_khaki navajo_white3 grey69",
  "gray69 light_steel_blue3 light_steel_blue yellow3 dark_sea_green2 light_cyan3",
  "light_sky_blue1 green_yellow dark_olive_green2 dark_sea_green1 pale_turquoise1 deep_pink3",
  "magenta2 hot_pink2 orchid medium_orchid1 orange3 light_pink3 pink3 plum3 violet",
  "light_goldenrod3 tan misty_rose3 thistle3 plum2 khaki3 light_goldenrod2 light_yellow3 grey84",
  "gray84 light_steel_blue1 yellow2 dark_olive_green1 honeydew2 light_cyan1 red1 deep_pink2",
  "deep_pink1 magenta1 orange_red1 indian_red1 hot_pink dark_orange salmon1 light_coral",
  "pale_violet_red1 orchid2 orchid1 orange1 sandy_brown light_salmon1 light_pink1 pink1 plum1",
  "gold1 navajo_white1 misty_rose1 thistle1 yellow1 light_goldenrod1 khaki1 wheat1 cornsilk1",
  "grey100 gray100 grey3 gray3 grey7 gray7 grey11 gray11 grey15 gray15 grey19 gray19 grey23",
  "gray23 grey27 gray27 grey30 gray30 grey35 gray35 grey39 gray39 grey42 gray42 grey46 gray46",
  "grey50 gray50 grey54 gray54 grey58 gray58 grey62 gray62 grey66 gray66 grey70 gray70 grey74",
  "gray74 grey78 gray78 grey82 gray82 grey85 gray85 grey89 gray89 grey93 gray93"]

def attributes : List (String × List String) := [
  ("bold", ["b"]), ("dim", ["d"]), ("italic", ["i"]), ("underline", ["u"]), ("blink", []),
  ("blink2", []), ("reverse", ["r"]), ("conceal", ["c"]), ("strike", ["s"]),
  ("underline2", ["uu"]), ("frame", []), ("encircle", []), ("overline", ["o"])]

def attribute? (word : String) : Option String :=
  (attributes.find? fun (name, spellings) => name == word || spellings.contains word).map Prod.fst

inductive StyleFault where
  | unknown
  | channel
deriving DecidableEq, Repr

def channel (digits : List Char) : Except StyleFault Nat :=
  if digits.isEmpty then .error .channel else .ok (digitsValue digits)

def checkColor (word : List Char) : Except StyleFault Unit :=
  let name := String.ofList word
  let known := colorNames.any fun names => (splitAtChar ' ' names).contains name
  if name == "default" || known then .ok ()
  else
    match dropLead ['#'] word with
    | some digits =>
        if digits.length = 6 ∧ (numberIn? 16 digits).isSome then .ok () else .error .unknown
    | none =>
        match (dropLead "color(".toList word).bind (dropTail [')']) with
        | some digits =>
            if 1 ≤ digits.length ∧ digits.length ≤ 3 ∧ digits.all isAsciiDigit ∧
                digitsValue digits ≤ 255 then .ok ()
            else .error .unknown
        | none =>
            match (dropLead "rgb(".toList word).bind (dropTail [')']) with
            | none => .error .unknown
            | some inner =>
                let parts := splitWhere (· == ',') inner
                if inner.isEmpty || !inner.all fun c => isDecimalDigit c || c == ',' then
                  .error .unknown
                else if parts.length ≠ 3 then .error .unknown
                else do
                  let channels ← parts.mapM channel
                  if channels.all (· ≤ 255) then .ok () else .error .unknown

structure Style where
  switches : List (String × Bool)
  color : Option String
  background : Option String
  link : Option String

namespace Style

def empty : Style :=
  ⟨[], none, none, none⟩

def colorOf (word : String) : Except StyleFault String := do
  let name := lowerCased word
  checkColor name.toList
  return name

def addWords (style : Style) : List String → Except StyleFault Style
  | [] => .ok style
  | written :: rest =>
      match lowerCased written, rest with
      | "on", word :: rest => do
          let background ← colorOf word
          { style with background := some background }.addWords rest
      | "on", [] => .error .unknown
      | "not", word :: rest =>
          match attribute? word with
          | some name => { style with switches := (name, false) :: style.switches }.addWords rest
          | none => .error .unknown
      | "not", [] => .error .unknown
      | "link", word :: rest => { style with link := some word }.addWords rest
      | "link", [] => .error .unknown
      | word, rest =>
          match attribute? word with
          | some name => { style with switches := (name, true) :: style.switches }.addWords rest
          | none => do
              let color ← colorOf word
              { style with color := some color }.addWords rest

def words (style : Style) : List String :=
  (attributes.filterMap fun (name, _) =>
    (style.switches.lookup name).map fun on => if on then name else "not " ++ name) ++
    style.color.toList ++ (style.background.map ("on " ++ ·)).toList ++
    (style.link.map ("link " ++ ·)).toList

end Style

def normalStyle? (text : List Char) : Option String :=
  if text.isEmpty || trim text == "none".toList then some "none"
  else
    match Style.empty.addWords ((pieces isBlank text).map String.ofList) with
    | .ok style =>
        some (if style.words.isEmpty then "none" else " ".intercalate style.words)
    | .error .unknown => some (lowerCased (trimmed (String.ofList text)))
    | .error .channel => none

end DesignTokens.Console
