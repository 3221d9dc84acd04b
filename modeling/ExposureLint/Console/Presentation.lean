import ExposureLint.Json.Printer
import ExposureLint.Project.Failure
import ExposureLint.Settings
import ExposureLint.Terminal.Table

/-!
How results and remarks are presented. Results go to the data stream and nothing else does; remarks
go to the stream beside it. What is said is an `Emission`, and a `Presentation` decides how, and
whether, it is shown.
-/
namespace ExposureLint

/-- The forms that a result can be shown in, once it is settled what `auto` means. -/
inductive Rendering
  | json
  | plain
  | rich
deriving DecidableEq

namespace Rendering

def format : Rendering → OutputFormat
  | .json => .json
  | .plain => .plain
  | .rich => .rich

end Rendering

/-- The rendering that a format asks for; `auto` leaves it open. -/
def OutputFormat.rendering? : OutputFormat → Option Rendering
  | .auto => none
  | .json => some .json
  | .plain => some .plain
  | .rich => some .rich

structure Surroundings where
  isTerminal : Bool
  environment : Environment

namespace Surroundings

def terminalName (s : Surroundings) : Text := (s.environment.get? "TERM").getD []

/-- Colours are unwanted where one variable is set to anything, or where the terminal is plain. -/
def noColor (s : Surroundings) : Bool :=
  (s.environment.get? "NO_COLOR").isSome || s.terminalName == Text.ofString "dumb"

/-- The colours that a terminal knows which shows styles, as its name and one variable tell. -/
def palette? (s : Surroundings) : Option Palette :=
  let is (t : Text) (words : List String) : Bool := words.any fun w => t == Text.ofString w
  let read (name : Text) : Text := Text.lower (Text.strip ((s.environment.get? name).getD []))
  let family := (Text.pieces (fun c => c == '-') (read "TERM")).getLast?.getD []
  if is (Text.lower s.terminalName) ["dumb", "unknown"] then none
  else if is (read "COLORTERM") ["truecolor", "24bit"] then some .all
  else if is family ["256color", "kitty"] then some .indexed
  else some .sixteen

/-- The number in a variable. What consists of digits has to be a number, and anything else is
ignored. -/
def dimension? (s : Surroundings) (name : Text) : Except Numeral.Fault (Option Nat) :=
  match s.environment.get? name with
  | none => .ok none
  | some t =>
    if t.isEmpty || !t.all CodePoint.isDigit then .ok none
    else (Numeral.readInt 10 t).map fun n => some n.toNat

def usualColumns : Nat := 80

/-- The width of the screen. Its height is not needed, but must not be faulty either. -/
def columns (s : Surroundings) : Except Numeral.Fault Nat := do
  let columns ← s.dimension? "COLUMNS"
  let _ ← s.dimension? "LINES"
  return columns.getD usualColumns

end Surroundings

/-- `quiet` leaves out the remarks that are not essential, `verbose` shows those for debugging. -/
structure Presentation where
  rendering : Rendering
  noColor : Bool
  quiet : Bool
  verbose : Bool
  screen : Screen
deriving DecidableEq

namespace Presentation

/-- The rendering for a format: `auto` is rich on a terminal with colours, and plain elsewhere. -/
def settle (isTerminal noColor : Bool) (format : OutputFormat) : Rendering :=
  (format.rendering?).getD (if isTerminal && !noColor then .rich else .plain)

/-- A presentation for a format and flags; the only fault is that of a screen whose size is not
told by a number. -/
def make (s : Surroundings) (format : OutputFormat) (noColor quiet verbose : Bool) :
    Except Numeral.Fault Presentation := do
  let noColor := noColor || s.noColor
  let screen := ⟨← s.columns, s.palette?, !noColor⟩
  return ⟨settle s.isTerminal noColor format, noColor, quiet, verbose, screen⟩

def standard (s : Surroundings) : Except Numeral.Fault Presentation :=
  make s .auto false false false

end Presentation

inductive Remark
  | info
  | success
  | warning
  | error
  | failure
  | suggestion
  | debug
deriving DecidableEq

namespace Remark

def heading : Remark → Text
  | .info | .success | .failure => []
  | .warning => "Warning: "
  | .error => "Error: "
  | .suggestion => "→ "
  | .debug => "[debug] "

/-- Whether a presentation shows remarks of a kind. Warnings, errors and verdicts are always
shown. -/
def isShown (p : Presentation) : Remark → Bool
  | .info | .success | .suggestion => !p.quiet
  | .debug => p.verbose
  | .warning | .error | .failure => true

/-- With colours, the headings of warnings and errors are marked up, and so their messages have to
be escaped. -/
def isMarkedUp : Remark → Bool
  | .warning | .error => true
  | _ => false

def colored (kind : Remark) (message : Text) : Text :=
  if kind.isMarkedUp then kind.heading ++ Markup.shownParts (Markup.escape message)
  else Markup.plain (kind.heading ++ message)

def expanded (t : Text) : Text :=
  Text.join "\n" ((Styled.plain t).lines.map fun line => line.expandTabs.text)

def text (p : Presentation) (kind : Remark) (message : Text) : Text :=
  if !kind.isShown p then []
  else if p.noColor then kind.heading ++ message ++ [CodePoint.ofChar '\n']
  else if p.screen.columns == 0 then []
  else expanded (kind.colored message) ++ [CodePoint.ofChar '\n']

end Remark

/-- Something that is said: a result as text, as a value or as a table, or a remark. -/
inductive Emission
  | data (t : Text)
  | value (v : Value)
  | table (t : Table)
  | remark (kind : Remark) (message : Text)

structure Streams where
  data : Text
  remarks : Text
deriving DecidableEq

namespace Streams

def empty : Streams := ⟨[], []⟩

def append (a b : Streams) : Streams := ⟨a.data ++ b.data, a.remarks ++ b.remarks⟩

instance : Append Streams := ⟨append⟩

/-- Text beside the data, where every text can be written. -/
def ofRemarks (t : Text) : Streams := ⟨[], Utf8.escaped t⟩

end Streams

namespace Table

def toValue (t : Table) : Value :=
  .list (t.rows.map fun row =>
    .map (Value.ofEntries ((t.headers.zip row).map fun (header, cell) =>
      (.text header, .text cell))))

def toLines (t : Table) : List Text := (t.headers :: t.rows).map (Text.join "\t")

end Table

/-- A part of what an emission puts on the streams, which is written by itself: text that ends in a
line feed of its own, a drawing, or text beside the data. -/
inductive Piece
  | line (t : Text)
  | drawing (t : Text)
  | remark (t : Text)

namespace Presentation

def valueLine (v : Value) : Except Failure Text :=
  (Json.print .report v).mapError fun fault => .mishap (.json fault)

def tablePieces (p : Presentation) (t : Table) : Except Failure (List Piece) :=
  match p.rendering with
  | .json => do return [.line (← valueLine t.toValue)]
  | .plain => .ok (t.toLines.map .line)
  | .rich =>
    match t.draw p.screen with
    | .ok drawn => .ok [.drawing drawn]
    | .error fault => .error (.mishap (.markup fault))

def pieces (p : Presentation) : Emission → Except Failure (List Piece)
  | .data t => .ok [.line t]
  | .value v => do return [.line (← valueLine v)]
  | .table t => p.tablePieces t
  | .remark kind message => .ok [.remark (kind.text p message)]

end Presentation
end ExposureLint
