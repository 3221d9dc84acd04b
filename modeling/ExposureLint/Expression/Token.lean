import ExposureLint.Expression.Number

/-!
The tokens of an expression. A line end counts only outside brackets, and only there does the
indentation of the next line. A text that cannot be taken apart to its end has the tokens up to
there, and a stop.
-/
namespace ExposureLint.Expression

/-- `fixed` are the words and signs that are always written in one way. -/
inductive Lexeme
  | name (t : Text)
  | number (written : Text)
  | quoted (written : Text)
  | fixed (word : String)
  | lineEnd
  | indent
  | dedent
  | ending
deriving DecidableEq

/-- A token with the number of brackets that are open behind it, and its line. -/
structure Token where
  lexeme : Lexeme
  level : Nat
  line : Nat
deriving DecidableEq

/-- Why there are no more tokens, with the innermost of the brackets that are open, and its line. It
is `seen` where the last token could not be told without looking at it. -/
structure Stop where
  cause : Cause
  bracket : Option (CodePoint × Nat)
  isSeen : Bool
deriving DecidableEq

/-- The tokens of a text; without a stop the last one is `ending`. -/
structure Scanned where
  tokens : List Token
  stop : Option Stop
deriving DecidableEq

/-- Whether the end of a token is told by what is behind it. -/
def Lexeme.isOpen : Lexeme → Bool
  | .quoted _ => false
  | .fixed word => word != "..."
  | _ => true

def reservedWords : List String := [
  "False", "None", "True", "and", "as", "assert", "async", "await", "break", "class", "continue",
  "def", "del", "elif", "else", "except", "finally", "for", "from", "global", "if", "import", "in",
  "is", "lambda", "nonlocal", "not", "or", "pass", "raise", "return", "try", "while", "with",
  "yield"]

/-- The signs of more than one character, the longest first. -/
def longSigns : List String := [
  "**=", "//=", "<<=", ">>=", "...", "!=", "%=", "&=", "**", "*=", "+=", "-=", "->", "//", "/=",
  ":=", "<<", "<=", "<>", "==", ">=", ">>", "@=", "^=", "|="]

def quoteMarks : List String := ["r", "u", "b", "f", "br", "rb", "fr", "rf"]

def isOneOf (words : List String) (w : Text) : Bool := words.any fun x => w == Text.ofString x

def isQuote (c : CodePoint) : Bool := c.isIn "'\""

/-- Where one is in a text: the line, the open brackets with their lines and the widths of the
indentations around, both with the innermost first, and whether a line has just begun. A width is
told with tabs up to every eighth column, and with tabs as single blanks. -/
structure Place where
  line : Nat
  brackets : List (CodePoint × Nat)
  indents : List (Nat × Nat)
  isFresh : Bool
deriving DecidableEq

namespace Place

def level (p : Place) : Nat := p.brackets.length

def token (p : Place) (lexeme : Lexeme) : Token := ⟨lexeme, p.level, p.line⟩

def stop (p : Place) (cause : Cause) : Stop := ⟨cause, p.brackets.head?, false⟩

def ended (p : Place) : Stop :=
  p.stop (match p.brackets with
    | (bracket, _) :: _ => .unclosed bracket
    | [] => .ended)

end Place

/-- What a step over a text comes to: some tokens, and the place and the text behind them. -/
abbrev Scan := Except Stop (List Token × Place × Text)

def lineEnds (c : CodePoint) : Nat := if c == '\n' then 1 else 0

def fromLineEnd (t : Text) : Text := t.dropWhile fun c => lineEnds c == 0

/-- What is behind the closing quote, or the number of lines passed in vain. A backslash takes what
is behind it along. -/
def behindQuote (quote : CodePoint) (lines : Nat) : Text → Except Nat Text
  | [] => .error lines
  | c :: rest =>
    if c == quote then .ok rest
    else if c == '\n' then .error lines
    else if c == '\\' then
      match rest with
      | [] => .error lines
      | d :: more => behindQuote quote (lines + lineEnds d) more
    else behindQuote quote lines rest

/-- The same for three quotes, of which `run` have been passed. -/
def behindQuotes (quote : CodePoint) (lines run : Nat) : Text → Except Nat Text
  | [] => .error lines
  | c :: rest =>
    if c == quote then if run == 2 then .ok rest else behindQuotes quote lines (run + 1) rest
    else if c == '\\' then
      match rest with
      | [] => .error lines
      | d :: more => behindQuotes quote (lines + lineEnds d) 0 more
    else behindQuotes quote (lines + lineEnds c) 0 rest

/-- What is behind a quoted part, from right behind its first quote. -/
def behindQuoted (quote : CodePoint) (line : Nat) (t : Text) : Except Cause Text :=
  if Text.startsWith t [quote, quote] then
    (behindQuotes quote 0 0 (t.drop 2)).mapError fun lines => .openLongText (line + lines)
  else (behindQuote quote 0 t).mapError fun lines => .openText (line + lines)

/-- The part of a text in front of another part that ends it. -/
def writtenBefore (whole rest : Text) : Text := whole.take (whole.length - rest.length)

/-- The width of an indentation, told in both ways, with the number of lines that it goes over, and
what is behind it. A backslash at a line end goes on to the next line, where the width in front of
it counts. -/
def indentation (kept : Nat) (width : Nat × Nat) (lines : Nat) :
    Text → Except (Nat × Option Cause) ((Nat × Nat) × Nat × Text)
  | [] => .ok (if kept == 0 then width else (kept, kept), lines, [])
  | c :: rest =>
    if c == ' ' then indentation kept (width.1 + 1, width.2 + 1) lines rest
    else if c == '\t' then indentation kept ((width.1 / 8 + 1) * 8, width.2 + 1) lines rest
    else if c == '\x0c' then indentation kept (0, 0) lines rest
    else if c == '\\' then
      match rest with
      | d :: more =>
        if !(d == '\n') then .error (lines, some .strayBackslash)
        else if more.isEmpty then .error (lines + 1, none)
        else indentation (if kept == 0 then width.1 else kept) width (lines + 1) more
      | [] => .error (lines, some .strayBackslash)
    else .ok (if kept == 0 then width else (kept, kept), lines, c :: rest)

def indentLimit : Nat := 99

def Place.indentTo (p : Place) (width : Nat × Nat) : Except Stop (List Token × Place) :=
  match p.indents with
  | [] =>
    if width.1 == 0 then .ok ([], p) else .ok ([p.token .indent], { p with indents := [width] })
  | innermost :: _ =>
    if width.1 == innermost.1 then
      if width.2 == innermost.2 then .ok ([], p) else .error (p.stop .mixedIndent)
    else if innermost.1 < width.1 then
      if indentLimit ≤ p.indents.length then .error (p.stop .tooManyIndents)
      else if width.2 ≤ innermost.2 then .error (p.stop .mixedIndent)
      else .ok ([p.token .indent], { p with indents := width :: p.indents })
    else
      let outer := p.indents.dropWhile fun i => width.1 < i.1
      let closed := List.replicate (p.indents.length - outer.length) (p.token .dedent)
      let found := outer.head?.getD (0, 0)
      if found.1 != width.1 then .error (p.stop .unevenIndent)
      else if found.2 != width.2 then .error (p.stop .mixedIndent)
      else .ok (closed, { p with indents := outer })

/-- A step over the indentation of a line. Lines that are blank but for a comment are passed over.
-/
def Place.overIndentation (p : Place) (t : Text) : Scan :=
  match indentation 0 (0, 0) 0 t with
  | .error (lines, cause) =>
    let reached := { p with line := p.line + lines }
    .error ((cause.map reached.stop).getD reached.ended)
  | .ok (width, lines, rest) =>
    let reached := { p with line := p.line + lines, isFresh := false }
    if rest.head?.any fun c => c.isIn "#\n" then
      match fromLineEnd rest with
      | _ :: more => .ok ([], { reached with line := reached.line + 1, isFresh := true }, more)
      | [] => .ok ([], reached, [])
    else if !p.brackets.isEmpty then .ok ([], reached, rest)
    else do
      let (tokens, reached) ← reached.indentTo width
      return (tokens, reached, rest)

def Place.overNumber (p : Place) (whole : Text) (behind : Except Cause Text) : Scan := do
  let rest ← behind.mapError p.stop
  return ([p.token (.number (writtenBefore whole rest))], p, rest)

def Place.overQuoted (p : Place) (whole : Text) (quote : CodePoint) (inside : Text) : Scan := do
  let rest ← (behindQuoted quote p.line inside).mapError p.stop
  let written := writtenBefore whole rest
  return ([p.token (.quoted written)],
    { p with line := p.line + total (written.map lineEnds) }, rest)

/-- A step over a word, which is a name, a reserved word, or the mark of a quoted part. -/
def Place.overWord (p : Place) (whole : Text) : Scan :=
  let word := whole.takeWhile isLetterOrDigit
  let behind := whole.drop word.length
  let isMark := isOneOf quoteMarks (Text.lowerAscii word)
  match behind, (if word.all (·.val < 0x80) then none else Text.misnamed? word) with
  | q :: inside, misnamed =>
    if isQuote q && isMark then p.overQuoted whole q inside else ended misnamed word behind
  | [], misnamed => ended misnamed word behind
where
  ended (misnamed : Option CodePoint) (word behind : Text) : Scan :=
    match misnamed with
    | some c => .error (p.stop (.badCharacter c))
    | none =>
      let lexeme := match reservedWords.find? fun w => word == Text.ofString w with
        | some w => Lexeme.fixed w
        | none => .name word
      .ok ([p.token lexeme], p, behind)

def bracketLimit : Nat := 200

def closingOf (c : CodePoint) : CodePoint :=
  if c == '(' then ')' else if c == '[' then ']' else '\x7d'

def Place.behindSign (p : Place) (c : CodePoint) : Except Stop Place :=
  if c.isIn "([\x7b" then
    if bracketLimit ≤ p.level then .error (p.stop .tooManyBrackets)
    else .ok { p with brackets := (c, p.line) :: p.brackets }
  else if c.isIn ")]\x7d" then
    match p.brackets with
    | [] => .error (p.stop (.unopened c))
    | (opening, line) :: outer =>
      if c == closingOf opening then .ok { p with brackets := outer }
      else .error (p.stop (.mismatched c opening (if line == p.line then none else some line)))
  else if c.isPrintable then .ok p
  else .error (p.stop (.badCharacter c))

def Place.overSign (p : Place) (c : CodePoint) (rest : Text) : Scan :=
  match longSigns.find? fun sign => Text.startsWith (c :: rest) (Text.ofString sign) with
  | some sign => .ok ([p.token (.fixed sign)], p, rest.drop (sign.length - 1))
  | none => do
    let behind ← p.behindSign c
    return ([behind.token (.fixed (String.singleton c.toChar))], behind, rest)

def Place.overPart (p : Place) (c : CodePoint) (rest : Text) : Scan :=
  if c == '\n' then
    .ok (if p.brackets.isEmpty then [p.token .lineEnd] else [],
      { p with line := p.line + 1, isFresh := true }, rest)
  else if c.isAsciiDigit then p.overNumber (c :: rest) (behindNumber c rest)
  else if c == '.' && rest.head?.any CodePoint.isAsciiDigit then
    p.overNumber (c :: rest) (behindPoint rest)
  else if isLetterOrDigit c then p.overWord (c :: rest)
  else if isQuote c then p.overQuoted (c :: rest) c rest
  else if c == '\\' then
    match rest with
    | d :: more =>
      if !(d == '\n') then .error (p.stop .strayBackslash)
      else
        let reached := { p with line := p.line + 1 }
        if more.isEmpty then .error reached.ended else .ok ([], reached, more)
    | [] => .error (p.stop .strayBackslash)
  else p.overSign c rest

def isGap (c : CodePoint) : Bool := c.isIn " \t\x0c"

def Place.step (p : Place) (t : Text) : Scan :=
  if p.isFresh then p.overIndentation t
  else match t.dropWhile isGap with
    | [] => .ok ([], p, [])
    | c :: rest =>
      if c == '#' then .ok ([], p, fromLineEnd rest)
      else p.overPart c rest

/-- Every step takes something from the text or goes over an indentation. `last` is what the step
before has found. -/
def scanFrom : Nat → Place → Option Lexeme → Text → Scanned
  | _, p, last, [] =>
    if p.brackets.isEmpty then ⟨[p.token .ending], none⟩
    else ⟨[], some { p.ended with isSeen := last.any Lexeme.isOpen }⟩
  | 0, p, _, _ :: _ => ⟨[p.token .ending], none⟩
  | fuel + 1, p, _, t =>
    match p.step t with
    | .error stop => ⟨[], some stop⟩
    | .ok (tokens, p, rest) =>
      let behind := scanFrom fuel p (tokens.getLast?.map (·.lexeme)) rest
      ⟨tokens ++ behind.tokens, behind.stop⟩

def scan (line : Nat) (t : Text) : Scanned :=
  scanFrom (2 * t.length + 2) ⟨line, [], [], true⟩ none t

end ExposureLint.Expression
