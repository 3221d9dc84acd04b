import ExposureLint.Yaml.Token.Quoted

/-!
Plain scalars, which stand without quotes. They end at a colon with a gap after it, at a comment, at
a line that is indented less, and inside brackets also at the signs of a flow collection.
-/
namespace ExposureLint.Yaml

/-- Whether a plain scalar ends where `c` stands with `next` behind it. -/
def endsPlain (flow : Bool) (c next : CodePoint) : Bool :=
  isGapOrEnd c
    || (c == ':' && (isGapOrEnd next || (flow && next.isIn ",[]\x7b\x7d")))
    || (flow && c.isIn ",?[]\x7b\x7d")

def plainLength (flow : Bool) : Text → Nat
  | [] => 0
  | c :: rest =>
    if endsPlain flow c (rest.headD CodePoint.nul) then 0 else plainLength flow rest + 1

/-- A gap inside a plain scalar: what it counts as, nothing where the scalar cannot go on; and
whether a line ended. -/
structure PlainGap where
  text : Text
  lineEnded : Bool
  after : Cursor

/-- Spaces and empty lines after a line end; nothing when a document ends there. -/
def scanPlainLines : Nat → Cursor → Option Text × Cursor
  | 0, c => (some [], c)
  | fuel + 1, c =>
    if c.peek == ' ' then scanPlainLines fuel c.step
    else if isBreak c.peek then
      let (ending, c) := c.lineBreak
      if c.atSeparator then (none, c)
      else
        let (more, c) := scanPlainLines fuel c
        (more.map (ending ++ ·), c)
    else (some [], c)

def scanPlainGap (c : Cursor) : PlainGap :=
  let (spaces, c) := c.span isSpace
  if isBreak c.peek then
    let (ending, c) := c.lineBreak
    if c.atSeparator then ⟨[], true, c⟩
    else match scanPlainLines (c.rest.length + 1) c with
      | (none, c) => ⟨[], true, c⟩
      | (some more, c) => ⟨folded ending more, true, c⟩
  else ⟨spaces, false, c⟩

structure PlainScan where
  text : Text
  stop : Mark
  lineEnded : Bool
  after : Cursor

/-- The words of a plain scalar. `gap` is what stands in front of the next word, and counts only if
there is one. -/
def scanPlainWords (flow : Bool) (indent : Int) (gap : Text) (stop : Mark) (lineEnded : Bool) :
    Nat → Cursor → PlainScan
  | 0, c => ⟨[], stop, lineEnded, c⟩
  | fuel + 1, c =>
    let size := if c.peek == '#' then 0 else plainLength flow c.rest
    if size == 0 then ⟨[], stop, lineEnded, c⟩
    else
      let word := c.rest.take size
      let c := c.skip size
      let next := scanPlainGap c
      let stops := next.text.isEmpty || next.after.peek == '#'
        || (!flow && (next.after.column : Int) < indent)
      if stops then ⟨gap ++ word, c.mark, next.lineEnded, next.after⟩
      else
        let more := scanPlainWords flow indent next.text c.mark next.lineEnded fuel next.after
        { more with text := gap ++ word ++ more.text }

def scanPlain (flow : Bool) (around : Int) (c : Cursor) : Token × Bool × Cursor :=
  let scan := scanPlainWords flow (around + 1) [] c.mark false (c.rest.length + 1) c
  (⟨.scalar scan.text true, c.mark, scan.stop⟩, scan.lineEnded, scan.after)

end ExposureLint.Yaml
