import ExposureLint.Terminal.Styled

/-!
Lines as a terminal gets them: runs of text, each in one style. A run is painted by itself, with
what switches its style on in front and off behind.
-/
namespace ExposureLint

/-- What painting depends on: the number of columns, the colours that are known if styles are known
at all, and whether colours are wanted. -/
structure Screen where
  columns : Nat
  palette : Option Palette
  colored : Bool
deriving DecidableEq

structure Run where
  text : Text
  style : Style

namespace Screen

def paint (screen : Screen) (r : Run) : Text :=
  match screen.palette with
  | none => r.text
  | some palette => (if screen.colored then r.style else r.style.withoutColor).paint palette r.text

end Screen

namespace Run

def plain (t : Text) : Run := ⟨t, .none⟩

def blank (n : Nat) (style : Style) : Run := ⟨Text.spaces n, style⟩

def above (base : Style) (r : Run) : Run := ⟨r.text, r.style.onto base⟩

def width (line : List Run) : Nat := total (line.map fun r => r.text.width)

/-- The pieces of a text that stands from position `pos` on, cut at the edges, with their
positions. -/
def piecesFrom (edges : List Nat) (pos : Nat) : Text → List (Nat × Text)
  | [] => []
  | c :: rest =>
    match piecesFrom edges (pos + 1) rest with
    | [] => [(pos, [c])]
    | (start, piece) :: more =>
      if edges.contains start then (pos, [c]) :: (start, piece) :: more
      else (pos, c :: piece) :: more

/-- The runs of a text without line feeds: a run ends where a span begins or ends. -/
def ofStyled (s : Styled) : Except Numeral.Fault (List Run) := do
  let spans ← s.spans.mapM fun span => return (span, ← span.style.resolve)
  let edges := s.spans.flatMap fun span => [span.start, span.stop]
  let styleAt (pos : Nat) : Style :=
    Style.stack (s.base.toList ++ (spans.filter fun (span, _) =>
      span.start ≤ pos && pos < span.stop).map (·.2))
  return (piecesFrom edges 0 s.text).map fun (pos, piece) => ⟨piece, styleAt pos⟩

def takeColumns : Nat → List Run → List Run
  | _, [] => []
  | left, r :: rest =>
    let size := r.text.width
    if size < left then r :: takeColumns (left - size) rest
    else [⟨Text.resized left r.text, r.style⟩]

def cropped (columns : Nat) (line : List Run) : List Run :=
  if columns < width line then takeColumns columns line else line

def fitted (columns : Nat) (style : Style) (line : List Run) : List Run :=
  if width line < columns then line ++ [blank (columns - width line) style]
  else cropped columns line

end Run
end ExposureLint
