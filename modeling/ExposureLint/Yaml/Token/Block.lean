import ExposureLint.Yaml.Token.Name
import ExposureLint.Yaml.Token.Quoted

/-!
Block scalars: lines below an indicator, indented further than what is around them. A folded scalar
joins its lines, but not those that begin with a blank. The header may say how far the lines are
indented, and whether the line ends after the last of them are kept.
-/
namespace ExposureLint.Yaml

/-- What happens to the line ends after the last line: one stays, none stays, or all stay. -/
inductive Chomping
  | clip
  | strip
  | keep
deriving DecidableEq

structure BlockHeader where
  chomping : Chomping
  indentation : Option Nat

def chomping? (c : CodePoint) : Option Chomping :=
  if c == '+' then some .keep else if c == '-' then some .strip else none

/-- A digit for the indentation, where zero is refused. -/
def scanIndentation (start : Mark) (c : Cursor) : Except Fault (Option Nat × Cursor) :=
  if c.peek.isAsciiDigit then
    let n := c.peek.val - 0x30
    if n == 0 then complain .blockScalar start .zeroIndentation c else .ok (some n, c.step)
  else .ok (none, c)

/-- The two indicators, in either order. -/
def scanBlockHeader (start : Mark) (c : Cursor) : Except Fault (BlockHeader × Cursor) := do
  let (header, c) ← match chomping? c.peek with
    | some chomping => do
      let (indentation, c) ← scanIndentation start c.step
      pure (BlockHeader.mk chomping indentation, c)
    | none => do
      let (indentation, c) ← scanIndentation start c
      match indentation, chomping? c.peek with
      | some _, some chomping => pure (BlockHeader.mk chomping indentation, c.step)
      | _, _ => pure (BlockHeader.mk .clip indentation, c)
  if !isSpaceOrEnd c.peek then unexpected .blockScalar start .indicators c
  else return (header, c)

/-- Empty lines in front of the first line, which shows the indentation: the line ends, and the
greatest column that the spaces reach. -/
def scanLeadingLines : Nat → Nat → Cursor → Text × Nat × Cursor
  | 0, reached, c => ([], reached, c)
  | fuel + 1, reached, c =>
    if c.peek == ' ' then scanLeadingLines fuel (max reached c.step.column) c.step
    else if isBreak c.peek then
      let (ending, c) := c.lineBreak
      let (more, reached, c) := scanLeadingLines fuel reached c
      (ending ++ more, reached, c)
    else ([], reached, c)

/-- Empty lines, where up to `indent` spaces count as none. -/
def scanBlankLines (indent : Nat) : Nat → Cursor → Text × Cursor
  | 0, c => ([], c)
  | fuel + 1, c =>
    let c := c.skipIndent indent
    if isBreak c.peek then
      let (ending, c) := c.lineBreak
      let (more, c) := scanBlankLines indent fuel c
      (ending ++ more, c)
    else ([], c)

/-- The lines of a block scalar. `leading` are the line ends in front of the next line. The answer
ends with the line end of the last line and the line ends after it, apart. -/
def scanBlockLines (fold : Bool) (indent : Nat) (leading : Text) :
    Nat → Cursor → Text × Text × Text × Cursor
  | 0, c => ([], [], leading, c)
  | fuel + 1, c =>
    let opensWithBlank := isTabOrSpace c.peek
    let (line, c) := c.span fun x => !isBreakOrEnd x
    let (ending, c) := c.lineBreak
    let (blank, c) := scanBlankLines indent (c.rest.length + 1) c
    if c.column == indent && c.peek != CodePoint.nul then
      let joint : Text :=
        if fold && ending == lineFeed && !opensWithBlank && !isTabOrSpace c.peek then
          (if blank.isEmpty then [' '] else [])
        else ending
      let (rest, last, after, c) := scanBlockLines fold indent blank fuel c
      (leading ++ line ++ joint ++ rest, last, after, c)
    else (leading ++ line, ending, blank, c)

def scanBlock (around : Int) (c : Cursor) : Scanned := do
  let fold := c.peek == '>'
  let (header, body) ← scanBlockHeader c.mark c.step
  let body ← skipLineEnd .blockScalar c.mark body
  let least := (max (around + 1) 1).toNat
  let (leading, indent, body) := match header.indentation with
    | none =>
      let (leading, reached, body) := scanLeadingLines (body.rest.length + 1) 0 body
      (leading, max least reached, body)
    | some n =>
      let indent := least + n - 1
      let (leading, body) := scanBlankLines indent (body.rest.length + 1) body
      (leading, indent, body)
  let (content, last, blank, after) :=
    if body.column == indent && body.peek != CodePoint.nul then
      scanBlockLines fold indent leading (body.rest.length + 1) body
    else ([], [], leading, body)
  let content := match header.chomping with
    | .strip => content
    | .clip => content ++ last
    | .keep => content ++ last ++ blank
  return (⟨.scalar content false, c.mark, after.mark⟩, after)

end ExposureLint.Yaml
