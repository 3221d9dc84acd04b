import ExposureLint.Console.Presentation
import ExposureLint.Project.Pipeline

/-!
The notes of the pipeline, which are shown beside the data stream when a presentation is verbose.
The log may have handlers from elsewhere, which are left alone.
-/
namespace ExposureLint

/-- A handler of the program itself, for a screen of some width, or one from elsewhere. Those from
elsewhere are told apart by their numbers. -/
inductive Handler
  | own (columns : Nat)
  | foreign (number : Nat := 0)
deriving DecidableEq

def Handler.isOwn : Handler → Bool
  | .own _ => true
  | .foreign _ => false

inductive Level
  | debug
  | warning
deriving DecidableEq

structure Log where
  handlers : List Handler
  level : Level
deriving DecidableEq

namespace Log

def initial : Log := ⟨[], .warning⟩

def takeAway (left : List Handler) (h : Handler) : List Handler :=
  if h.isOwn then left.erase h else left

/-- The handlers without those of the program itself. They are gone over as they stand at first. -/
def withoutOwn (handlers : List Handler) : List Handler := handlers.foldl takeAway handlers

/-- The log for a presentation: one handler of its own if it is verbose, and none otherwise. -/
def configure (p : Presentation) (log : Log) : Log :=
  let others := withoutOwn log.handlers
  if p.verbose then ⟨others ++ [.own p.screen.columns], .debug⟩ else ⟨others, .warning⟩

def heading : Text := "DEBUG   "

def headingColumn : Column := ⟨0, 1, .cell⟩
def messageColumn : Column := ⟨0, 0, .message⟩

def leastRoom : Nat := 1

/-- The text of a note on a screen of some width: its lines stand beside the heading, as far as
there is room for both. -/
def shownNote (columns : Nat) (n : Note) : Except Numeral.Fault Text := do
  let first := Styled.plain heading
  let second := Styled.plain (Text.withoutControls (n.source ++ ": " ++ n.message))
  let headingWidth := headingColumn.widthFor columns [first]
  let widths := Grid.widths columns [(headingColumn, [first]), (messageColumn, [second])]
    [headingWidth, max leastRoom (columns - headingWidth)]
  let cell (c : Column) (width : Nat) (t : Styled) : Except Numeral.Fault Grid.Cell := do
    return ⟨width, .none, ← c.linesOf width .none t⟩
  let cells := [← cell headingColumn (widths.getD 0 0) first,
    ← cell messageColumn (widths.getD 1 0) second]
  return (Screen.mk columns none false).textOf (Grid.rowLines .top List.flatten cells)

def noteText (log : Log) (n : Note) : Text :=
  match log.level with
  | .warning => []
  | .debug => log.handlers.flatMap fun h =>
    match h with
    | .own columns => if columns == 0 then [] else ((shownNote columns n).toOption).getD []
    | .foreign _ => []

end Log
end ExposureLint
