import ExposureLint.Number.Numeral
import ExposureLint.Text.Lower

/-!
Colours of a terminal. A colour is written by a name, by its number among 256, or by its parts of
red, green and blue. A terminal that knows fewer colours shows the nearest one that it knows;
`Shade.shownBy` says which one that is.
-/
namespace ExposureLint

structure Parts where
  red : Nat
  green : Nat
  blue : Nat
deriving DecidableEq

/-- The colours that a terminal knows: sixteen, 256, or all. -/
inductive Palette
  | sixteen
  | indexed
  | all
deriving DecidableEq

/-- How a colour is asked for; the first sixteen numbers are those of the small palette. -/
inductive Shade
  | default
  | numbered (n : Nat)
  | exact (parts : Parts)
deriving DecidableEq

namespace Shade

/-- The numbers that ask for a shade; where it is to be behind the text, the first of them is ten
more. -/
def codes (behind : Bool) (s : Shade) : List Nat :=
  let base (n : Nat) : Nat := if behind then n + 10 else n
  match s with
  | .default => [base 39]
  | .numbered n =>
    if n < 8 then [base (30 + n)] else if n < 16 then [base (82 + n)] else [base 38, 5, n]
  | .exact p => [base 38, 2, p.red, p.green, p.blue]

def sixteenParts : List Parts := [
  ⟨0, 0, 0⟩, ⟨170, 0, 0⟩, ⟨0, 170, 0⟩, ⟨170, 85, 0⟩, ⟨0, 0, 170⟩, ⟨170, 0, 170⟩, ⟨0, 170, 170⟩,
  ⟨170, 170, 170⟩, ⟨85, 85, 85⟩, ⟨255, 85, 85⟩, ⟨85, 255, 85⟩, ⟨255, 255, 85⟩, ⟨85, 85, 255⟩,
  ⟨255, 85, 255⟩, ⟨85, 255, 255⟩, ⟨255, 255, 255⟩]

/-- The levels of each part in the cube of colours that stands between the sixteen and the greys. -/
def level (n : Nat) : Nat := if n == 0 then 0 else 55 + 40 * n

def numberedParts (n : Nat) : Parts :=
  if n < 232 then
    ⟨level ((n - 16) / 36), level ((n - 16) / 6 % 6), level ((n - 16) % 6)⟩
  else
    let grey := 8 + 10 * (n - 232)
    ⟨grey, grey, grey⟩

def difference (a b : Nat) : Nat := max a b - min a b

/-- How far two colours are from each other, to an eye that sees green best; squared. -/
def distance (a b : Parts) : Nat :=
  let mean := (a.red + b.red) / 2
  let red := difference a.red b.red
  let green := difference a.green b.green
  let blue := difference a.blue b.blue
  (512 + mean) * red * red / 256 + 4 * green * green + (767 - mean) * blue * blue / 256

/-- The number of the nearest of some colours, the first of several; `n` is the number of the first,
and `best` the nearest one before with its distance. -/
def nearestFrom (p : Parts) (n : Nat) (best : Nat × Nat) : List Parts → Nat
  | [] => best.1
  | q :: rest =>
    let d := distance p q
    nearestFrom p (n + 1) (if d < best.2 then (n, d) else best) rest

def nearestOfSixteen (p : Parts) : Nat :=
  match sixteenParts with
  | [] => 0
  | q :: rest => nearestFrom p 1 (0, distance p q) rest

def quotient (x y : Binary64) : Binary64 :=
  match x.ratio?, y.ratio? with
  | some (a, b), some (c, d) => .ofRatio false (a * d) (b * c)
  | _, _ => .nan 0

def isLess (x y : Binary64) : Bool :=
  match x.ratio?, y.ratio? with
  | some (a, b), some (c, d) => a * d < c * b
  | _, _ => false

def lightAndSaturation (p : Parts) : Binary64 × Binary64 :=
  let part (n : Nat) : Binary64 := .ofRatio false n 255
  let most := part (max p.red (max p.green p.blue))
  let least := part (min p.red (min p.green p.blue))
  let sum := most.add least
  let range := most.add least.neg
  let two := Binary64.ofInt 2
  let light := quotient sum two
  if most == least then (light, .zero false)
  else if isLess (quotient (.ofInt 1) two) light then
    (light, quotient range ((two.add most.neg).add least.neg))
  else (light, quotient range sum)

/-- A finite number rounded to the nearest integer, a tie to the even one. -/
def rounded (x : Binary64) : Nat :=
  match x.ratio? with
  | some (a, b) => roundDiv a b
  | none => 0

def nearestLevel (n : Nat) : Nat := if n < 95 then roundDiv n 95 else 1 + roundDiv (n - 95) 40

/-- The number of the shade in the large palette for given parts: a grey for what is nearly grey,
and the nearest of the cube for all else. -/
def nearestNumber (p : Parts) : Nat :=
  let (light, saturation) := lightAndSaturation p
  if isLess saturation (.ofDecimal false 15 (-2)) then
    let grey := rounded (light.mulInt 25)
    if grey == 0 then 16 else if grey == 25 then 231 else 231 + grey
  else
    16 + 36 * nearestLevel p.red + 6 * nearestLevel p.green + nearestLevel p.blue

def shownBy (palette : Palette) (s : Shade) : Shade :=
  match palette, s with
  | .sixteen, .numbered n =>
    if n < 16 then s else .numbered (nearestOfSixteen (numberedParts n))
  | .sixteen, .exact p => .numbered (nearestOfSixteen p)
  | .indexed, .exact p => .numbered (nearestNumber p)
  | _, s => s

end Shade

/-- A colour keeps the text that it is written by. -/
structure Color where
  name : Text
  shade : Shade
deriving DecidableEq

namespace Color

def table : String := "
  black=0 red=1 green=2 yellow=3 blue=4 magenta=5 cyan=6 white=7 bright_black=8 bright_red=9
  bright_green=10 bright_yellow=11 bright_blue=12 bright_magenta=13 bright_cyan=14 bright_white=15
  grey0=16 gray0=16 navy_blue=17 dark_blue=18 blue3=20 blue1=21 dark_green=22 deep_sky_blue4=25
  dodger_blue3=26 dodger_blue2=27 green4=28 spring_green4=29 turquoise4=30 deep_sky_blue3=32
  dodger_blue1=33 green3=40 spring_green3=41 dark_cyan=36 light_sea_green=37 deep_sky_blue2=38
  deep_sky_blue1=39 spring_green2=47 cyan3=43 dark_turquoise=44 turquoise2=45 green1=46
  spring_green1=48 medium_spring_green=49 cyan2=50 cyan1=51 dark_red=88 deep_pink4=125 purple4=55
  purple3=56 blue_violet=57 orange4=94 grey37=59 gray37=59 medium_purple4=60 slate_blue3=62
  royal_blue1=63 chartreuse4=64 dark_sea_green4=71 pale_turquoise4=66 steel_blue=67 steel_blue3=68
  cornflower_blue=69 chartreuse3=76 cadet_blue=73 sky_blue3=74 steel_blue1=81 pale_green3=114
  sea_green3=78 aquamarine3=79 medium_turquoise=80 chartreuse2=112 sea_green2=83 sea_green1=85
  aquamarine1=122 dark_slate_gray2=87 dark_magenta=91 dark_violet=128 purple=129 light_pink4=95
  plum4=96 medium_purple3=98 slate_blue1=99 yellow4=106 wheat4=101 grey53=102 gray53=102
  light_slate_grey=103 light_slate_gray=103 medium_purple=104 light_slate_blue=105
  dark_olive_green3=149 dark_sea_green=108 light_sky_blue3=110 sky_blue2=111 dark_sea_green3=150
  dark_slate_gray3=116 sky_blue1=117 chartreuse1=118 light_green=120 pale_green1=156
  dark_slate_gray1=123 red3=160 medium_violet_red=126 magenta3=164 dark_orange3=166 indian_red=167
  hot_pink3=168 medium_orchid3=133 medium_orchid=134 medium_purple2=140 dark_goldenrod=136
  light_salmon3=173 rosy_brown=138 grey63=139 gray63=139 medium_purple1=141 gold3=178
  dark_khaki=143 navajo_white3=144 grey69=145 gray69=145 light_steel_blue3=146
  light_steel_blue=147 yellow3=184 dark_sea_green2=157 light_cyan3=152 light_sky_blue1=153
  green_yellow=154 dark_olive_green2=155 dark_sea_green1=193 pale_turquoise1=159 deep_pink3=162
  magenta2=200 hot_pink2=169 orchid=170 medium_orchid1=207 orange3=172 light_pink3=174 pink3=175
  plum3=176 violet=177 light_goldenrod3=179 tan=180 misty_rose3=181 thistle3=182 plum2=183
  khaki3=185 light_goldenrod2=222 light_yellow3=187 grey84=188 gray84=188 light_steel_blue1=189
  yellow2=190 dark_olive_green1=192 honeydew2=194 light_cyan1=195 red1=196 deep_pink2=197
  deep_pink1=199 magenta1=201 orange_red1=202 indian_red1=204 hot_pink=206 dark_orange=208
  salmon1=209 light_coral=210 pale_violet_red1=211 orchid2=212 orchid1=213 orange1=214
  sandy_brown=215 light_salmon1=216 light_pink1=217 pink1=218 plum1=219 gold1=220
  navajo_white1=223 misty_rose1=224 thistle1=225 yellow1=226 light_goldenrod1=227 khaki1=228
  wheat1=229 cornsilk1=230 grey100=231 gray100=231 grey3=232 gray3=232 grey7=233 gray7=233
  grey11=234 gray11=234 grey15=235 gray15=235 grey19=236 gray19=236 grey23=237 gray23=237
  grey27=238 gray27=238 grey30=239 gray30=239 grey35=240 gray35=240 grey39=241 gray39=241
  grey42=242 gray42=242 grey46=243 gray46=243 grey50=244 gray50=244 grey54=245 gray54=245
  grey58=246 gray58=246 grey62=247 gray62=247 grey66=248 gray66=248 grey70=249 gray70=249
  grey74=250 gray74=250 grey78=251 gray78=251 grey82=252 gray82=252 grey85=253 gray85=253
  grey89=254 gray89=254 grey93=255 gray93=255"

def numbers : List (String × Nat) :=
  ((table.splitOn "\n").flatMap fun line => line.splitOn " ").filterMap fun entry =>
    match entry.splitOn "=" with
    | [name, n] => n.toNat?.map fun n => (name, n)
    | _ => none

def inBrackets? (word : String) (t : Text) : Option Text :=
  let start := Text.ofString word ++ "("
  if t.startsWith start && t.endsWith ")" then some (t.drop start.length).dropLast else none

def hexParts? : Text → Option Parts
  | [a, b, c, d, e, f] => do
    return ⟨(← a.hexValue?) * 16 + (← b.hexValue?), (← c.hexValue?) * 16 + (← d.hexValue?),
      (← e.hexValue?) * 16 + (← f.hexValue?)⟩
  | _ => none

/-- A number of one to three digits, which must be below 256. -/
def number? (t : Text) : Option Nat :=
  if t.isEmpty || 3 < t.length || !t.all CodePoint.isAsciiDigit then none
  else
    let n := t.foldl (fun n c => n * 10 + (c.val - 0x30)) 0
    if n < 256 then some n else none

/-- Three parts with commas between them. A part that is no number is a fault of its own. -/
def commaParts? (t : Text) : Except Numeral.Fault (Option Parts) := do
  let allowed (c : CodePoint) : Bool := c.digitValue?.isSome || c.isBlank || c == ','
  if t.isEmpty || !t.all allowed then return none
  match t.pieces fun c => c == ',' with
  | [red, green, blue] =>
    let red ← Numeral.readInt 10 red
    let green ← Numeral.readInt 10 green
    let blue ← Numeral.readInt 10 blue
    let parts : Parts := ⟨red.toNat, green.toNat, blue.toNat⟩
    return if max parts.red (max parts.green parts.blue) < 256 then some parts else none
  | _ => return none

def ofText? (t : Text) : Except Numeral.Fault (Option Color) := do
  let name := Text.strip (Text.lower t)
  let made (s : Option Shade) : Option Color := s.map fun s => ⟨name, s⟩
  if name == Text.ofString "default" then return made (some .default)
  match numbers.find? fun e => name == Text.ofString e.1 with
  | some (_, n) => return made (some (.numbered n))
  | none =>
    match name with
    | [] => return none
    | c :: rest =>
      if c == '#' then return made ((hexParts? rest).map .exact)
      else match inBrackets? "color" name, inBrackets? "rgb" name with
        | some inside, _ => return made ((number? inside).map .numbered)
        | none, some inside => return made ((← commaParts? inside).map .exact)
        | none, none => return none

end Color
end ExposureLint
