import ExposureLint.Terminal.Run

/-!
Texts in rows and columns. A column is as wide as its widest text; where that is too much for the
screen, the widest columns give way first. What a column has on the left and on the right of its
texts counts as a part of it.
-/
namespace ExposureLint

/-- A column without its texts: the blanks on either side of them, and how they are laid out. -/
structure Column where
  left : Nat
  right : Nat
  rule : Styled.Rule

namespace Column

def extra (c : Column) : Nat := c.left + c.right

def hasRoom (c : Column) (width : Nat) : Bool := c.extra < width

def widthFor (limit : Nat) (c : Column) (texts : List Styled) : Nat :=
  (texts.map fun t =>
    if c.hasRoom limit then min limit (t.text.widest + c.extra) else limit).foldl max 0

def linesOf (width : Nat) (base : Style) (c : Column) (t : Styled) :
    Except Numeral.Fault (List (List Run)) :=
  if !c.hasRoom width then .ok []
  else
    let room := width - c.extra
    (t.laidOut room c.rule).mapM fun line => do
      let runs := Run.fitted room .none (← Run.ofStyled line)
      let side (n : Nat) : List Run := if n == 0 then [] else [Run.blank n .none]
      let runs := (side c.left ++ runs ++ side c.right).map (Run.above base)
      return Run.fitted width base runs

end Column

namespace Grid

/-- Takes `excess` from the values whose share is not zero, each as its share says but at most its
limit. -/
def reduced (excess shares : Nat) : List (Nat × Nat × Nat) → List Nat
  | [] => []
  | (share, limit, value) :: rest =>
    if share == 0 || shares == 0 then value :: reduced excess shares rest
    else
      let part := min limit (roundDiv (share * excess) shares)
      (value - part) :: reduced (excess - part) (shares - share) rest

def reduce (excess : Nat) (entries : List (Nat × Nat × Nat)) : List Nat :=
  let entries := entries.map fun (share, limit, value) =>
    (if limit == 0 then 0 else share, limit, value)
  reduced excess (total (entries.map (·.1))) entries

/-- Makes the widest columns as narrow as the next ones, until all fit in `limit` or all are of one
width; `rounds` bounds how often. -/
def narrow (limit : Nat) : Nat → List Nat → List Nat
  | 0, widths => widths
  | rounds + 1, widths =>
    let excess := total widths - limit
    let widest := widths.foldl max 0
    let next := (widths.filter fun w => w != widest).foldl max 0
    if excess == 0 || widest == 0 then widths
    else
      narrow limit rounds (reduce excess (widths.map fun w =>
        (if w == widest then 1 else 0, min excess (widest - next), w)))

/-- The widths that columns have in `limit` where they want those given: as wanted if these fit, and
else narrowed, with what is not needed then given up. -/
def widths (limit : Nat) (columns : List (Column × List Styled)) (wanted : List Nat) : List Nat :=
  if total wanted ≤ limit then wanted
  else
    let narrowed := narrow limit (total wanted + 1) wanted
    let excess := total narrowed - limit
    let narrowed :=
      if excess == 0 then narrowed else reduce excess (narrowed.map fun w => (1, w, w))
    (narrowed.zip columns).map fun (width, column, texts) => column.widthFor width texts

/-- Where the lines of a cell stand that has fewer of them than others of its row. -/
inductive Stand
  | top
  | bottom
deriving DecidableEq

/-- A cell that is laid out: its width, the style that is below all others, and its lines. -/
structure Cell where
  width : Nat
  base : Style
  lines : List (List Run)

/-- The cells of a row as lines of equal number, which is at least one. -/
def levelled (stand : Stand) (cells : List Cell) : List (List (List Run)) :=
  let height := (cells.map fun c => c.lines.length).foldl max 0
  cells.map fun c =>
    let missing := List.replicate (height - c.lines.length) [Run.blank c.width c.base]
    if height == 0 then [[Run.blank c.width .none]]
    else match stand with
      | .top => c.lines ++ missing
      | .bottom => missing ++ c.lines

/-- The lines of a row, where `across` puts together what its cells have in one line. -/
def rowLines (stand : Stand) (across : List (List Run) → List Run) (cells : List Cell) :
    List (List Run) :=
  let cells := levelled stand cells
  let height := (cells.map List.length).foldl max 0
  (List.range height).map fun n => across (cells.map fun lines => lines.getD n [])

end Grid

def Screen.textOf (screen : Screen) (lines : List (List Run)) : Text :=
  lines.flatMap fun line =>
    (Run.cropped screen.columns line).flatMap screen.paint ++ [CodePoint.ofChar '\n']

end ExposureLint
