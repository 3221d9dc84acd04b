import ExposureLint.Text.Basic

/-!
Sorting by two texts in the order of code points. The sort is stable: what has equal keys keeps its
order.
-/
namespace ExposureLint

namespace Text

/-- The order of pairs of texts, the first one before the second. -/
def pairLe (a b : Text × Text) : Bool :=
  if a.1 == b.1 then Text.le a.2 b.2 else Text.le a.1 b.1

end Text

/-- Puts `x` in front of the first element that it is not after. -/
def insertBy {α : Type} (key : α → Text × Text) (x : α) : List α → List α
  | [] => [x]
  | y :: rest =>
    if Text.pairLe (key x) (key y) then x :: y :: rest else y :: insertBy key x rest

def sortBy {α : Type} (key : α → Text × Text) (xs : List α) : List α :=
  xs.foldr (insertBy key) []

end ExposureLint
