import ExposureLint.Terminal.Color

/-!
Styles of text on a terminal: attributes such as bold, a colour, a colour behind, and the address
that the text leads to. What a style says nothing about stays as it is below. A style is described
by words, and shown by numbers in an escape sequence in front of the text. In front of an address a
terminal is also told a number that marks the parts of one link; it is drawn by chance, and is left
out here.
-/
namespace ExposureLint

inductive Attribute
  | bold
  | dim
  | italic
  | underline
  | blink
  | rapidBlink
  | reverse
  | conceal
  | strike
  | doubleUnderline
  | framed
  | encircled
  | overline
deriving DecidableEq

namespace Attribute

/-- The attributes in the order in which they are written. -/
def all : List Attribute := [.bold, .dim, .italic, .underline, .blink, .rapidBlink, .reverse,
  .conceal, .strike, .doubleUnderline, .framed, .encircled, .overline]

/-- The words for an attribute, the full one first. -/
def words : Attribute → List String
  | .bold => ["bold", "b"]
  | .dim => ["dim", "d"]
  | .italic => ["italic", "i"]
  | .underline => ["underline", "u"]
  | .blink => ["blink"]
  | .rapidBlink => ["blink2"]
  | .reverse => ["reverse", "r"]
  | .conceal => ["conceal", "c"]
  | .strike => ["strike", "s"]
  | .doubleUnderline => ["underline2", "uu"]
  | .framed => ["frame"]
  | .encircled => ["encircle"]
  | .overline => ["overline", "o"]

def name (a : Attribute) : Text := Text.ofString (a.words.headD "")

def code : Attribute → Nat
  | .bold => 1
  | .dim => 2
  | .italic => 3
  | .underline => 4
  | .blink => 5
  | .rapidBlink => 6
  | .reverse => 7
  | .conceal => 8
  | .strike => 9
  | .doubleUnderline => 21
  | .framed => 51
  | .encircled => 52
  | .overline => 53

def ofWord? (w : Text) : Option Attribute :=
  all.find? fun a => a.words.any fun word => w == Text.ofString word

end Attribute

/-- Of several entries for one attribute, the first counts. -/
structure Style where
  attributes : List (Attribute × Bool)
  color : Option Color
  behind : Option Color
  link : Option Text
deriving DecidableEq

namespace Style

def none : Style := ⟨[], .none, .none, .none⟩

def having (a : Attribute) (on : Bool) : Style := ⟨[(a, on)], .none, .none, .none⟩

/-- One style on top of another: what it says counts, and the rest is as below. -/
def onto (upper lower : Style) : Style :=
  ⟨upper.attributes ++ lower.attributes, upper.color.or lower.color, upper.behind.or lower.behind,
    upper.link.or lower.link⟩

/-- The styles of a list on top of each other, the last on top. -/
def stack (styles : List Style) : Style := styles.foldl (fun lower upper => upper.onto lower) none

def withoutColor (s : Style) : Style := ⟨s.attributes, .none, .none, s.link⟩

/-- The numbers of a style for a palette: attributes, colour, colour behind. -/
def codes (palette : Palette) (s : Style) : List Nat :=
  let shade (behind : Bool) (c : Option Color) : List Nat :=
    ((c.map fun c => (c.shade.shownBy palette).codes behind).getD [])
  (Attribute.all.filter fun a => s.attributes.lookup a == some true).map Attribute.code
    ++ shade false s.color ++ shade true s.behind

/-- A text that leads to an address, on terminals that know such texts. -/
def linked (address t : Text) : Text :=
  "\x1b]8;;" ++ address ++ "\x1b\\" ++ t ++ "\x1b]8;;\x1b\\"

def paint (palette : Palette) (s : Style) (t : Text) : Text :=
  if t.isEmpty then []
  else
    let codes := s.codes palette
    let painted : Text :=
      if codes.isEmpty then t
      else "\x1b[" ++ Text.join ";" (codes.map Text.ofNat) ++ "m" ++ t ++ "\x1b[0m"
    (s.link.map fun address => linked address painted).getD painted

/-- The style that a list of words describes on top of `s`. -/
def ofWords? (s : Style) : List Text → Except Numeral.Fault (Option Style)
  | [] => .ok (some s)
  | w :: rest =>
    let word := Text.lower w
    if word == Text.ofString "on" then
      match rest with
      | [] => .ok .none
      | c :: rest => do
        match ← Color.ofText? c with
        | some c => ofWords? { s with behind := some c } rest
        | .none => return .none
    else if word == Text.ofString "not" then
      match rest with
      | [] => .ok .none
      | a :: rest =>
        match Attribute.ofWord? a with
        | some a => ofWords? ((having a false).onto s) rest
        | .none => .ok .none
    else if word == Text.ofString "link" then
      match rest with
      | [] => .ok .none
      | address :: rest => ofWords? { s with link := some address } rest
    else match Attribute.ofWord? word with
      | some a => ofWords? ((having a true).onto s) rest
      | .none => do
        match ← Color.ofText? word with
        | some c => ofWords? { s with color := some c } rest
        | .none => return .none

def noneWord : Text := "none"

def wordsOf (t : Text) : List Text := (t.pieces CodePoint.isBlank).filter fun w => !w.isEmpty

/-- The style that a text describes in words, if it does; no words, or the word `none`, describe the
style that says nothing. The only fault is that of a colour whose parts are no numbers. -/
def ofText? (t : Text) : Except Numeral.Fault (Option Style) :=
  if Text.strip t == noneWord then .ok (some none) else ofWords? none (wordsOf t)

def describe (s : Style) : Text :=
  let attributes : List Text := Attribute.all.filterMap fun a =>
    (s.attributes.lookup a).map fun on => if on then a.name else "not " ++ a.name
  let behind : List Text := (s.behind.map fun c => ("on " : Text) ++ c.name).toList
  let link : List Text := (s.link.map fun address => ("link " : Text) ++ address).toList
  let words := attributes ++ (s.color.map Color.name).toList ++ behind ++ link
  if words.isEmpty then noneWord else Text.join " " words

/-- One form for all texts that describe the same style; other texts are taken without white space
around them and in lower case. -/
def normalize (t : Text) : Except Numeral.Fault Text := do
  match ← ofText? t with
  | some s => return s.describe
  | .none => return Text.lower (Text.strip t)

end Style
end ExposureLint
