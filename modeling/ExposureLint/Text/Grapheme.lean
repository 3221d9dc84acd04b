import ExposureLint.Text.Width

/-!
Texts in pieces that a terminal cannot split: a character with the marks on it, or a picture with
all its parts. `graphemes` gives the pieces of a text, whose texts are the text again when they are
put together. Cutting and folding a text to a number of columns go by these pieces.
-/
namespace ExposureLint

structure Grapheme where
  text : Text
  width : Nat
deriving DecidableEq

namespace Grapheme

def extend (g : Grapheme) (c : CodePoint) : Grapheme := ⟨g.text ++ [c], g.width⟩

/-- The last piece with one more code point, which is a piece of its own where there is none
before it; the last piece stands first. -/
def attach (c : CodePoint) : List Grapheme → List Grapheme
  | [] => [⟨[c], 0⟩]
  | g :: before => g.extend c :: before

end Grapheme

namespace Text

/-- The pieces after those in `before`, the last of which stands first; `last` and `joined` are as
for the width of a text. -/
def graphemesFrom (before : List Grapheme) (last : Option CodePoint) (joined : Bool) :
    Text → List Grapheme
  | [] => before.reverse
  | c :: rest =>
    if joined then graphemesFrom (Grapheme.attach c before) last false rest
    else if c.isJoiner then
      graphemesFrom (Grapheme.attach c before) last (!before.isEmpty) rest
    else if c.isPictureSelector then
      match before with
      | g :: more =>
        if last.any CodePoint.widensAsPicture then
          graphemesFrom (⟨g.text ++ [c], g.width + 1⟩ :: more) none false rest
        else graphemesFrom (g.extend c :: more) last false rest
      | [] => graphemesFrom [⟨[c], 0⟩] last false rest
    else
      let size := c.width
      if size == 0 then graphemesFrom (Grapheme.attach c before) last false rest
      else graphemesFrom (⟨[c], size⟩ :: before) (some c) false rest

def graphemes (t : Text) : List Grapheme := graphemesFrom [] none false t

def spaces (n : Nat) : Text := List.replicate n (CodePoint.ofChar ' ')

/-- The start of pieces in a number of columns; a blank stands for half a wide character. -/
def takeColumns : Nat → List Grapheme → Text
  | _, [] => []
  | left, g :: rest =>
    if left == 0 then []
    else if g.width ≤ left then g.text ++ takeColumns (left - g.width) rest
    else spaces 1

def resized (columns : Nat) (t : Text) : Text :=
  let size := t.width
  if columns == 0 then []
  else if size ≤ columns then t ++ spaces (columns - size)
  else takeColumns columns t.graphemes

/-- The pieces in lines of at most `columns` columns, where `line` is the one that is being filled
and `used` columns of it are taken. What takes no column does not begin a last line. -/
def foldedFrom (columns : Nat) (line : Text) (used : Nat) : List Grapheme → List Text
  | [] => if used == 0 then [] else [line]
  | g :: rest =>
    if used + g.width > columns then line :: foldedFrom columns g.text g.width rest
    else foldedFrom columns (line ++ g.text) (used + g.width) rest

def folded (columns : Nat) (t : Text) : List Text := foldedFrom columns [] 0 t.graphemes

end Text
end ExposureLint
