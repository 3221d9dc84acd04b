import ExposureLint.Yaml.Token

/-!
Scalars in single or double quotes. A line end inside counts as a blank, and further empty lines as
line feeds. Between double quotes a backslash starts an escape, and before a line end it takes the
line end away.
-/
namespace ExposureLint.Yaml

def letterEscapes : List (Char × Char) := [
  ('0', '\x00'), ('a', '\x07'), ('b', '\x08'), ('t', '\t'), ('\t', '\t'), ('n', '\n'),
  ('v', '\x0b'), ('f', '\x0c'), ('r', '\r'), ('e', '\x1b'), (' ', ' '), ('"', '"'), ('\\', '\\'),
  ('/', '/'), ('N', '\u0085'), ('_', '\u00a0'), ('L', '\u2028'), ('P', '\u2029')]

def hexEscapes : List (Char × Nat) := [('x', 2), ('u', 4), ('U', 8)]

def firstNonHex? (c : Cursor) (n : Nat) : Option CodePoint :=
  ((List.range n).map c.peekAt).find? fun x => x.hexValue?.isNone

def hexNumber (digits : Text) : Nat :=
  digits.foldl (fun n x => n * 16 + x.hexValue?.getD 0) 0

def codePoint (n : Nat) : Except Fault CodePoint :=
  match CodePoint.ofNat? n with
  | some x => .ok x
  | none => .error (.scalar (if twoTo 31 ≤ n then .hugeCodePoint else .codePoint))

/-- Empty lines, each a line feed. A document must not end here. -/
def scanEmptyLines (start : Mark) : Nat → Cursor → Except Fault (Text × Cursor)
  | 0, c => .ok ([], c)
  | fuel + 1, c =>
    if c.atSeparator then complain .quotedScalar start .documentSeparator c
    else
      let c := c.skipWhile isTabOrSpace
      if isBreak c.peek then do
        let (ending, c) := c.lineBreak
        let (more, c) ← scanEmptyLines start fuel c
        return (ending ++ more, c)
      else .ok ([], c)

/-- One line end and the empty lines after it as they count in a text: a line feed alone becomes a
blank. -/
def folded (ending more : Text) : Text :=
  if ending != lineFeed then ending ++ more
  else if more.isEmpty then [' ']
  else more

def scanQuotedGap (start : Mark) (c : Cursor) : Except Fault (Text × Cursor) :=
  let (blanks, after) := c.span isTabOrSpace
  if after.peek == CodePoint.nul then complain .quotedScalar start .endOfStream after
  else if isBreak after.peek then do
    let (ending, c) := after.lineBreak
    let (more, c) ← scanEmptyLines start (c.rest.length + 1) c
    return (folded ending more, c)
  else .ok (blanks, after)

def scanEscape (start : Mark) (c : Cursor) : Except Fault (Text × Cursor) :=
  let x := c.peek
  match letterEscapes.find? (fun e => x == e.1), hexEscapes.find? (fun e => x == e.1) with
  | some (_, y), _ => .ok ([y], c.step)
  | none, some (_, count) =>
    let c := c.step
    match firstNonHex? c count with
    | some bad => complain .doubleQuoted start (.expected (.hexDigits count) bad) c
    | none => do
      let y ← codePoint (hexNumber (c.rest.take count))
      return ([y], c.skip count)
  | none, none =>
    if isBreak x then scanEmptyLines start (c.rest.length + 1) c.lineBreak.2
    else complain .doubleQuoted start (.unknownEscape x) c

/-- What stands for itself between quotes of either kind. -/
def isQuotedChar (c : CodePoint) : Bool := !(isGapOrEnd c || c == '\x27' || c == '"' || c == '\\')

def scanQuotedWord (double : Bool) (start : Mark) : Nat → Cursor → Except Fault (Text × Cursor)
  | 0, c => .ok ([], c)
  | fuel + 1, c =>
    let (t, c) := c.span isQuotedChar
    let x := c.peek
    let more (here : Text) (c : Cursor) : Except Fault (Text × Cursor) := do
      let (rest, c) ← scanQuotedWord double start fuel c
      return (t ++ here ++ rest, c)
    if !double && x == '\x27' && c.peekAt 1 == '\x27' then more ['\x27'] (c.skip 2)
    else if (double && x == '\x27') || (!double && (x == '"' || x == '\\')) then more [x] c.step
    else if double && x == '\\' then do
      let (here, c) ← scanEscape start c.step
      more here c
    else .ok (t, c)

def scanQuotedRest (quote : CodePoint) (start : Mark) :
    Nat → Cursor → Except Fault (Text × Cursor)
  | 0, c => .ok ([], c)
  | fuel + 1, c => do
    let (word, c) ← scanQuotedWord (quote == '"') start (c.rest.length + 1) c
    if c.peek == quote then return (word, c.step)
    else
      let (gap, c) ← scanQuotedGap start c
      let (rest, c) ← scanQuotedRest quote start fuel c
      return (word ++ gap ++ rest, c)

def scanQuoted (c : Cursor) : Scanned := do
  let (content, after) ← scanQuotedRest c.peek c.mark (c.rest.length + 1) c.step
  return (⟨.scalar content false, c.mark, after.mark⟩, after)

end ExposureLint.Yaml
