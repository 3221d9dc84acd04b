import ExposureLint.Text.Quoted

/-!
A place in a YAML text, and moving on from it. The end of the text is read as the end mark, which no
text may hold. Five code points end a line; the byte order mark takes no column.
-/
namespace ExposureLint.Yaml

/-- A place in the text: how many code points are before it, its line, and its column, all counted
from zero. -/
structure Mark where
  index : Nat
  line : Nat
  column : Nat
deriving DecidableEq

structure Cursor where
  mark : Mark
  rest : Text

def isBreak (c : CodePoint) : Bool :=
  c == '\n' || c == '\r' || c.val == 0x85 || c.val == 0x2028 || c.val == 0x2029

def isBreakOrEnd (c : CodePoint) : Bool := c == CodePoint.nul || isBreak c

def isSpaceOrEnd (c : CodePoint) : Bool := c == ' ' || isBreakOrEnd c

/-- What separates two tokens. -/
def isGapOrEnd (c : CodePoint) : Bool := c == '\t' || isSpaceOrEnd c

def isSpace (c : CodePoint) : Bool := c == ' '
def isTabOrSpace (c : CodePoint) : Bool := c == ' ' || c == '\t'

def lineFeed : Text := "\n"

/-- A letter, a digit, a hyphen or an underscore. -/
def isWordChar (c : CodePoint) : Bool :=
  c.isAsciiDigit || c.isAsciiUpper || c.isAsciiLower || c == '-' || c == '_'

namespace Cursor

def start (t : Text) : Cursor := ⟨⟨0, 0, 0⟩, t⟩

def column (c : Cursor) : Nat := c.mark.column

/-- The code point `k` places ahead, the end mark past the end. -/
def peekAt (c : Cursor) (k : Nat) : CodePoint := (c.rest[k]?).getD CodePoint.nul

def peek (c : Cursor) : CodePoint := c.rest.headD CodePoint.nul

/-- One code point on. A carriage return before a line feed does not end its line. -/
def step (c : Cursor) : Cursor :=
  match c.rest with
  | [] => c
  | x :: rest =>
    let ends := isBreak x && !(x == '\r' && rest.head? == some (CodePoint.ofChar '\n'))
    let m := c.mark
    let mark : Mark :=
      if ends then ⟨m.index + 1, m.line + 1, 0⟩
      else if x == '\ufeff' then ⟨m.index + 1, m.line, m.column⟩
      else ⟨m.index + 1, m.line, m.column + 1⟩
    ⟨mark, rest⟩

def skip : Nat → Cursor → Cursor
  | 0, c => c
  | n + 1, c => skip n c.step

/-- The text up to the first code point outside `p`, and the cursor there. -/
def span (p : CodePoint → Bool) (c : Cursor) : Text × Cursor :=
  let taken := c.rest.takeWhile p
  (taken, c.skip taken.length)

def skipWhile (p : CodePoint → Bool) (c : Cursor) : Cursor := (c.span p).2

def skipSpaces (c : Cursor) : Cursor := c.skipWhile isSpace

def skipLine (c : Cursor) : Cursor := c.skipWhile fun x => !isBreakOrEnd x

/-- Past spaces, but not to a column after `limit`. -/
def skipIndent (limit : Nat) (c : Cursor) : Cursor :=
  let spaces := (c.rest.takeWhile isSpace).length
  c.skip (min spaces (limit - c.column))

/-- The end of a line as it counts in a text: all but the line and paragraph separators count as a
line feed. Empty where no line ends. -/
def lineBreak (c : Cursor) : Text × Cursor :=
  match c.rest with
  | [] => ([], c)
  | x :: rest =>
    if x == '\r' && rest.head? == some (CodePoint.ofChar '\n') then
      (lineFeed, c.skip 2)
    else if x.val == 0x2028 || x.val == 0x2029 then ([x], c.step)
    else if isBreak x then (lineFeed, c.step)
    else ([], c)

/-- Three hyphens or three full stops with a gap after them, which separate documents where they
begin a line. -/
def atSeparator (c : Cursor) : Bool :=
  (c.rest.startsWith "---" || c.rest.startsWith "...") && isGapOrEnd (c.peekAt 3)

end Cursor
end ExposureLint.Yaml
