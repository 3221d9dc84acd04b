import ExposureLint.Terminal.Theme
import ExposureLint.Text.Grapheme

/-!
Texts in which some parts have a style of their own, and how they are laid out in lines of a given
number of columns: lines are broken between words, and what does not fit is folded or cut short. The
parts are told by positions, so that cutting a text cuts them too.
-/
namespace ExposureLint

/-- What a terminal would act on in place of showing it: bell, backspace, two of the feeds, and
carriage return. -/
def CodePoint.isControl (c : CodePoint) : Bool :=
  c.val == 7 || c.val == 8 || c.val == 11 || c.val == 12 || c.val == 13

def Text.withoutControls (t : Text) : Text := t.filter fun c => !c.isControl

/-- A style, or words that name or describe one; words are looked up when the text is shown. -/
inductive SpanStyle
  | known (style : Style)
  | described (words : Text)

def SpanStyle.resolve : SpanStyle → Except Numeral.Fault Style
  | .known style => .ok style
  | .described words => Theme.styleOf words

/-- The style of the part from one position up to, and without, another one. -/
structure Span where
  start : Nat
  stop : Nat
  style : SpanStyle

namespace Span

/-- The same style for a part of a text that stands further back. -/
def shift (n : Nat) (s : Span) : Span := ⟨s.start + n, s.stop + n, s.style⟩

/-- What is left of a span where only the part of the text between two positions is. -/
def clip? (first stop : Nat) (s : Span) : Option Span :=
  let start := s.start - first
  let stop := min s.stop stop - first
  if start < stop then some ⟨start, stop, s.style⟩ else none

end Span

/-- The style of the whole is below those of the parts, and of these the later ones are on top. -/
structure Styled where
  text : Text
  base : Option Style
  spans : List Span

namespace Styled

def plain (t : Text) : Styled := ⟨t, none, []⟩

def clip (first stop : Nat) (s : Styled) : Styled :=
  ⟨(s.text.take stop).drop first, s.base, s.spans.filterMap (Span.clip? first stop)⟩

def divideFrom (first : Nat) (s : Styled) : List Nat → List Styled
  | [] => [s.clip first s.text.length]
  | stop :: rest => s.clip first stop :: divideFrom stop s rest

/-- The parts of a text that is cut at some positions. A text that is not cut stays as it is. -/
def divide (s : Styled) (cuts : List Nat) : List Styled :=
  if cuts.isEmpty then [s] else s.divideFrom 0 cuts

/-- The positions of a code point in a text that stands from position `pos` on. -/
def positionsFrom (c : CodePoint) (pos : Nat) : Text → List Nat
  | [] => []
  | d :: rest =>
    let more := positionsFrom c (pos + 1) rest
    if d == c then pos :: more else more

def positions (c : CodePoint) (t : Text) : List Nat := positionsFrom c 0 t

def isLineFeed (s : Styled) : Bool := s.text == [CodePoint.ofChar '\n']

def lines (s : Styled) : List Styled :=
  let cuts := (positions '\n' s.text).flatMap fun n => [n, n + 1]
  (s.divide cuts).filter fun line => !line.isLineFeed

/-- Another text in place of this one, where spans do not reach beyond its end. -/
def withText (s : Styled) (t : Text) : Styled :=
  if t.length < s.text.length then
    ⟨t, s.base, (s.spans.filter fun span => span.start < t.length).map fun span =>
      ⟨span.start, min t.length span.stop, span.style⟩⟩
  else { s with text := t }

def padLeft (n : Nat) (s : Styled) : Styled :=
  ⟨Text.spaces n ++ s.text, s.base, s.spans.map (Span.shift n)⟩

def padRight (n : Nat) (s : Styled) : Styled := { s with text := s.text ++ Text.spaces n }

/-- Blanks behind a text, in the styles that its end is in. -/
def stretch (n : Nat) (s : Styled) : Styled :=
  ⟨s.text ++ Text.spaces n, s.base, s.spans.map fun span =>
    if s.text.length ≤ span.stop then ⟨span.start, span.stop + n, span.style⟩ else span⟩

def tabWidth : Nat := 8

/-- The parts of a text with the spans of them all, from position `pos` on; the style of the whole
is told for each of the parts. -/
def spansOf (pos : Nat) : List Styled → List Span
  | [] => []
  | part :: rest =>
    (part.base.map fun style => (⟨pos, pos + part.text.length, .known style⟩ : Span)).toList
      ++ part.spans.map (Span.shift pos) ++ spansOf (pos + part.text.length) rest

/-- The parts of a line, of which all but the last end in a tab, with blanks up to the next multiple
of eight columns in place of the tabs; `column` is where they begin. -/
def withoutTabs (column : Nat) : List Styled → List Styled
  | [] => []
  | part :: rest =>
    if part.text.getLast? == some (CodePoint.ofChar '\t') then
      let part := { part with text := part.text.dropLast ++ Text.spaces 1 }
      let column := column + part.text.width
      let missing := (tabWidth - column % tabWidth) % tabWidth
      part.stretch missing :: withoutTabs (column + missing) rest
    else part :: withoutTabs (column + part.text.width) rest

def expandTabs (s : Styled) : Styled :=
  match positions '\t' s.text with
  | [] => s
  | tabs =>
    let parts := (s.divide (tabs.map (· + 1))).filter fun part => !part.text.isEmpty
    let parts := withoutTabs 0 parts
    ⟨parts.flatMap Styled.text, s.base, spansOf 0 parts⟩

/-- The text up to the end of its first word, with the white space behind that, and the rest. -/
def nextWord (t : Text) : Text × Text :=
  let before := t.takeWhile CodePoint.isBlank
  let rest := t.drop before.length
  let word := rest.takeWhile fun c => !c.isBlank
  let rest := rest.drop word.length
  let behind := rest.takeWhile CodePoint.isBlank
  (before ++ word ++ behind, rest.drop behind.length)

/-- At most `count` words of a text, each with the white space behind it, and the first one also
with the white space in front. -/
def wordsUpTo : Nat → Text → List Text
  | 0, _ => []
  | count + 1, t =>
    if t.isEmpty then [] else
      let (word, rest) := nextWord t
      word :: wordsUpTo count rest

def words (t : Text) : List Text :=
  if t.all CodePoint.isBlank then [] else wordsUpTo t.length t

structure Breaks where
  cuts : List Nat
  used : Nat

namespace Breaks

/-- A new part from a position on. Nothing is cut off in front of the first word. -/
def cut (b : Breaks) (pos used : Nat) : Breaks :=
  ⟨if pos == 0 then b.cuts else b.cuts ++ [pos], used⟩

def fold (pos : Nat) (b : Breaks) : List Text → Breaks
  | [] => b
  | piece :: rest => fold (pos + piece.length) (b.cut pos piece.width) rest

/-- The next word, which stands at a position. White space behind it does not count when asking
whether it fits. A word that is longer than a line is folded, or has a line for itself. -/
def place (columns : Nat) (folds : Bool) (pos : Nat) (word : Text) (b : Breaks) : Breaks :=
  let size := (Text.dropEndWhile CodePoint.isBlank word).width
  if b.used + size ≤ columns then ⟨b.cuts, b.used + word.width⟩
  else if columns < size then
    if folds then b.fold pos (Text.folded columns word) else b.cut pos word.width
  else if b.used != 0 && pos != 0 then b.cut pos word.width
  else b

def placeAll (columns : Nat) (folds : Bool) (pos : Nat) (b : Breaks) : List Text → Breaks
  | [] => b
  | word :: rest => placeAll columns folds (pos + word.length) (b.place columns folds pos word) rest

end Breaks

/-- Where lines go in their columns, and what becomes of words that are too long. -/
inductive Align
  | left
  | center
deriving DecidableEq

structure Rule where
  align : Align
  folds : Bool

namespace Rule

/-- The cells of a table: words that are too long are cut. -/
def cell : Rule := ⟨.left, false⟩

def title : Rule := ⟨.center, true⟩

def message : Rule := ⟨.left, true⟩

end Rule

/-- White space at the end is dropped, as far as the line is longer than its columns. -/
def trimEnd (columns : Nat) (s : Styled) : Styled :=
  let blanks := (s.text.reverse.takeWhile CodePoint.isBlank).length
  let extra := min blanks (s.text.length - columns)
  if extra == 0 then s else s.withText (s.text.take (s.text.length - extra))

/-- What does not fit is cut off; where words are not folded, an ellipsis takes the place of what is
cut off. -/
def truncate (columns : Nat) (rule : Rule) (s : Styled) : Styled :=
  if s.text.width ≤ columns then s
  else if rule.folds then s.withText (Text.resized columns s.text)
  else s.withText (Text.resized (columns - 1) s.text ++ [CodePoint.ofChar '…'])

def aligned (columns : Nat) (rule : Rule) (s : Styled) : Styled :=
  match rule.align with
  | .left => (s.truncate columns rule).padRight (columns - s.text.width)
  | .center =>
    let s := s.withText (Text.dropEndWhile CodePoint.isBlank s.text)
    let s := s.truncate columns rule
    let s := s.padLeft ((columns - s.text.width) / 2)
    s.padRight (columns - s.text.width)

def broken (columns : Nat) (rule : Rule) (line : Styled) : List Styled :=
  line.divide (Breaks.placeAll columns rule.folds 0 ⟨[], 0⟩ (words line.text)).cuts

def laidOut (columns : Nat) (rule : Rule) (s : Styled) : List Styled :=
  s.lines.flatMap fun line =>
    (line.expandTabs.broken columns rule).map fun part =>
      ((part.trimEnd columns).aligned columns rule).truncate columns rule

end Styled
end ExposureLint
