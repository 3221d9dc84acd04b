import ExposureLint.Yaml.Token

/-!
Anchors, aliases, tags and directives: the tokens that are made of names.
-/
namespace ExposureLint.Yaml

def endsName (c : CodePoint) : Bool := isGapOrEnd c || c.isIn "?:,]\x7d%@\x60"

def scanAnchor (c : Cursor) : Scanned := do
  let isAlias := c.peek == '*'
  let context := if isAlias then Context.aliasName else Context.anchorName
  let (name, after) := c.step.span isWordChar
  if name.isEmpty then unexpected context c.mark .wordChar after
  else if !endsName after.peek then unexpected context c.mark .wordChar after
  else return (⟨if isAlias then .aliasOf name else .anchor name, c.mark, after.mark⟩, after)

/-- What a tag may be made of; a percent sign starts an escape. -/
def isUriChar (c : CodePoint) : Bool :=
  c.isAsciiDigit || c.isAsciiUpper || c.isAsciiLower || c.isIn "-;/?:@&=+$,_.!~*'()[]%"

def scanUriByte (place : TagPlace) (start : Mark) (c : Cursor) : Except Fault (UInt8 × Cursor) :=
  let bad (k : Nat) : Except Fault (UInt8 × Cursor) :=
    complain (.tag place) start (.expected .uriEscape (c.peekAt k)) c
  match (c.peekAt 0).hexValue?, (c.peekAt 1).hexValue? with
  | none, _ => bad 0
  | some _, none => bad 1
  | some a, some b => .ok ((a * 16 + b).toUInt8, c.skip 2)

def scanUriBytes (place : TagPlace) (start : Mark) :
    Nat → Cursor → Except Fault (List UInt8 × Cursor)
  | 0, c => .ok ([], c)
  | fuel + 1, c =>
    if c.peek == '%' then do
      let (b, c) ← scanUriByte place start c.step
      let (more, c) ← scanUriBytes place start fuel c
      return (b :: more, c)
    else .ok ([], c)

/-- The characters of a tag; the bytes of a row of escapes are read as UTF-8 together. -/
def scanUriParts (place : TagPlace) (start : Mark) : Nat → Cursor → Except Fault (Text × Cursor)
  | 0, c => .ok ([], c)
  | fuel + 1, c =>
    if c.peek == '%' then do
      let first := c
      let (bytes, c) ← scanUriBytes place start (c.rest.length + 1) c
      match Utf8.decode bytes with
      | .error fault => complain (.tag place) start (.uriEncoding fault) first
      | .ok t =>
        let (more, c) ← scanUriParts place start fuel c
        return (t ++ more, c)
    else if isUriChar c.peek then do
      let (t, c) := c.span fun x => isUriChar x && x != '%'
      let (more, c) ← scanUriParts place start fuel c
      return (t ++ more, c)
    else .ok ([], c)

def scanUri (place : TagPlace) (start : Mark) (c : Cursor) : Except Fault (Text × Cursor) :=
  if isUriChar c.peek then scanUriParts place start (c.rest.length + 1) c
  else unexpected (.tagUri place) start .uri c

/-- A handle: one exclamation mark, or a name between two. -/
def scanHandle (place : TagPlace) (start : Mark) (c : Cursor) : Except Fault (Text × Cursor) :=
  if c.peek != '!' then unexpected (.tag place) start .exclamation c
  else if c.peekAt 1 == ' ' then .ok ("!", c.step)
  else
    let (name, after) := c.step.span isWordChar
    if after.peek != '!' then unexpected (.tag place) start .exclamation after
    else .ok ("!" ++ name ++ "!", after.step)

/-- Whether a tag has a second exclamation mark before the next blank. -/
def hasHandle (c : Cursor) : Bool :=
  ((c.rest.drop 1).takeWhile fun x => !isSpaceOrEnd x).contains (CodePoint.ofChar '!')

/-- A tag: in full between angle brackets, or a lone exclamation mark, or a handle and the rest. -/
def scanWrittenTag (c : Cursor) : Except Fault (WrittenTag × Cursor) :=
  let next := c.peekAt 1
  if next == '<' then do
    let (suffix, after) ← scanUri .node c.mark (c.skip 2)
    if after.peek != '>' then unexpected (.tagUri .node) c.mark .closingAngle after
    else return (⟨none, suffix⟩, after.step)
  else if isGapOrEnd next then .ok (⟨none, "!"⟩, c.step)
  else do
    let (handle, after) ← if hasHandle c then scanHandle .node c.mark c else .ok ("!", c.step)
    let (suffix, after) ← scanUri .node c.mark after
    return (⟨some handle, suffix⟩, after)

def scanTag (c : Cursor) : Scanned := do
  let (written, after) ← scanWrittenTag c
  if !isSpaceOrEnd after.peek then unexpected (.tag .node) c.mark .space after
  else return (⟨.tag written, c.mark, after.mark⟩, after)

def scanVersionNumber (start : Mark) (c : Cursor) : Except Fault (Int × Cursor) :=
  let (digits, after) := c.span CodePoint.isAsciiDigit
  if digits.isEmpty then unexpected .directive start .digit c
  else match Numeral.readInt 10 digits with
    | .ok n => .ok (n, after)
    | .error fault => .error (.scalar (.numeral fault))

def scanVersion (start : Mark) (c : Cursor) : Except Fault (DirectiveValue × Cursor) := do
  let (major, c) ← scanVersionNumber start c.skipSpaces
  if c.peek != '.' then unexpected .directive start .digitOrPoint c
  else
    let (minor, c) ← scanVersionNumber start c.step
    if !isSpaceOrEnd c.peek then unexpected .directive start .digitOrSpace c
    else return (.version major minor, c)

def scanHandleDirective (start : Mark) (c : Cursor) : Except Fault (DirectiveValue × Cursor) := do
  let (name, c) ← scanHandle .directive start c.skipSpaces
  if c.peek != ' ' then unexpected .directive start .space c
  else
    let (meaning, c) ← scanUri .directive start c.skipSpaces
    if !isSpaceOrEnd c.peek then unexpected .directive start .space c
    else return (.handle name meaning, c)

/-- Past the end of a line that may hold nothing more than a comment. -/
def skipLineEnd (context : Context) (start : Mark) (c : Cursor) : Except Fault Cursor :=
  let c := c.skipSpaces
  let c := if c.peek == '#' then c.skipLine else c
  if !isBreakOrEnd c.peek then unexpected context start .commentOrBreak c
  else .ok c.lineBreak.2

/-- What a directive says; one with an unknown name says nothing. -/
def scanDirectiveValue (name : Text) (start : Mark) (c : Cursor) :
    Except Fault (DirectiveValue × Cursor) :=
  if name == Text.ofString "YAML" then scanVersion start c
  else if name == Text.ofString "TAG" then scanHandleDirective start c
  else .ok (.unknown, c.skipLine)

def scanDirective (c : Cursor) : Scanned := do
  let (name, after) := c.step.span isWordChar
  if name.isEmpty || !isSpaceOrEnd after.peek then unexpected .directive c.mark .wordChar after
  else
    let (value, after) ← scanDirectiveValue name c.mark after
    let next ← skipLineEnd .directive c.mark after
    return (⟨.directive value, c.mark, after.mark⟩, next)

end ExposureLint.Yaml
