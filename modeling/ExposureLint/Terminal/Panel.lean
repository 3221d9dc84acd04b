import ExposureLint.Terminal.Grid

/-!
Messages in a frame as wide as the screen, with a title in its upper line.
-/
namespace ExposureLint.Panel

def bar (n : Nat) : Text := List.replicate n (CodePoint.ofChar '─')

/-- The upper line, which has the title only where there is room for it between the corners. -/
def top (columns : Nat) (title : Text) : Text :=
  if columns ≤ 4 then "╭" ++ bar (columns - 2) ++ "╮"
  else
    let room := columns - 4
    let shown : Text := if room < title.width then title.resized room else title
    "╭─" ++ shown ++ bar (room - shown.width) ++ "─╮"

def bottom (columns : Nat) : Text := "╰" ++ bar (columns - 2) ++ "╯"

def body (columns : Nat) (message : Text) : List Text :=
  let room := columns - 4
  if room == 0 then []
  else ((Styled.plain message.withoutControls).laidOut room .message).map fun line =>
    "│ " ++ line.text ++ " │"

def draw (columns : Nat) (title message : Text) : Text :=
  if columns == 0 then []
  else
    let lines := [top columns title] ++ body columns message ++ [bottom columns]
    (Screen.mk columns none false).textOf (lines.map fun line => [Run.plain line])

end ExposureLint.Panel
