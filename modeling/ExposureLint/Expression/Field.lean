import ExposureLint.Expression.Escape
import ExposureLint.Expression.Token

/-!
Fields in quoted texts: expressions in braces, each with a conversion and a format behind it, where
the format may hold fields again. Between fields a brace that is meant as such is written twice,
except in a format, where there are none.
-/
namespace ExposureLint.Expression

/-- What reading quoted parts needs besides them: the names of characters, and a check of the
expression in a field, which stands on some line. -/
structure Surrounding where
  isName : Text → Bool
  checkField : Nat → Text → Except Cause Unit

def isOpeningBrace (c : CodePoint) : Bool := c == '\x7b'
def isClosingBrace (c : CodePoint) : Bool := c == '\x7d'

/-- How plain text ends: in a brace that is written twice, in front of a brace, or with the whole;
the first two with what is still to be read. -/
inductive PlainEnd
  | doubled (rest : Text)
  | brace (rest : Text)
  | whole

def behindName : Text → Text
  | [] => []
  | c :: rest =>
    if isOpeningBrace c then (rest.dropWhile fun c => !isClosingBrace c).drop 1 else rest

/-- The plain text at the start of a text, in reverse and on top of `done`, and how it ends. -/
def plainPart (isRaw inFormat : Bool) : Nat → Text → Text → Except Cause (Text × PlainEnd)
  | 0, done, _ => .ok (done, .whole)
  | _, done, [] => .ok (done, .whole)
  | fuel + 1, done, c :: rest =>
    let ending (done : Text) (c : CodePoint) (rest : Text) : Except Cause (Text × PlainEnd) :=
      if !isOpeningBrace c && !isClosingBrace c then
        plainPart isRaw inFormat fuel (c :: done) rest
      else if inFormat then .ok (done, .brace (c :: rest))
      else if rest.head? == some c then .ok (c :: done, .doubled (rest.drop 1))
      else if isClosingBrace c then .error (.field .loneBrace)
      else .ok (done, .brace (c :: rest))
    match rest with
    | d :: more =>
      if isRaw || !(c == '\\') then ending done c rest
      else if !(d == 'N') then ending (c :: done) d more
      else
        let behind := behindName more
        let name := writtenBefore more behind
        plainPart isRaw inFormat fuel (name.reverse ++ d :: c :: done) behind
    | [] => ending done c rest

/-- Where one is in the expression of a field: inside a quoted part, of which the quote and whether
there are three of it are known, or between brackets, the innermost first. -/
structure Nesting where
  quote : Option (CodePoint × Bool)
  brackets : List CodePoint

/-- The comparisons that begin like a sign that ends an expression. -/
def comparisonSigns : List String := ["!=", "==", "<=", ">="]

/-- The expression at the start of a field, in reverse and on top of `done`, and what is behind it.
It ends with a brace, a colon, an exclamation mark or an equals sign outside brackets. -/
def expressionPart (n : Nesting) : Nat → Text → Text → Except Cause (Text × Text)
  | 0, done, t => .ok (done, t)
  | _, done, [] =>
    match n.quote, n.brackets with
    | some _, _ => .error (.field .openText)
    | none, bracket :: _ => .error (.field (.unmatched bracket))
    | none, [] => .ok (done, [])
  | fuel + 1, done, c :: rest =>
    let on (n : Nesting) (count : Nat) : Except Cause (Text × Text) :=
      expressionPart n fuel ((rest.take (count - 1)).reverse ++ c :: done) (rest.drop (count - 1))
    let isTriple := rest.take 2 == [c, c]
    if c == '\\' then .error (.field .backslash)
    else match n.quote with
      | some (quote, isLong) =>
        if !(c == quote) || (isLong && !isTriple) then on n 1
        else on { n with quote := none } (if isLong then 3 else 1)
      | none =>
        if isQuote c then on { n with quote := some (c, isTriple) } (if isTriple then 3 else 1)
        else if c.isIn "([\x7b" then
          if bracketLimit ≤ n.brackets.length then .error (.field .tooManyBrackets)
          else on { n with brackets := c :: n.brackets } 1
        else if c == '#' then .error (.field .comment)
        else match n.brackets with
          | [] =>
            if comparisonSigns.any fun sign => Text.startsWith (c :: rest) (Text.ofString sign) then
              on n 2
            else if c.isIn "!:=\x7d" then .ok (done, c :: rest)
            else if c.isIn ")]" then .error (.field (.unmatched c))
            else on n 1
          | opening :: outer =>
            if !c.isIn ")]\x7d" then on n 1
            else if c == closingOf opening then on { n with brackets := outer } 1
            else .error (.field (.mismatched c opening))

def isLooseSpace (c : CodePoint) : Bool := c.isIn " \t\n\x0c"

def checkExpression (s : Surrounding) (line : Nat) (written : Text) (mark : CodePoint) :
    Except Cause Unit :=
  if !written.all isLooseSpace then s.checkField line written
  else if isClosingBrace mark then .error (.field .empty)
  else .error (.field (.emptyBefore mark))

def behindConversion (t : Text) : Except Cause Text :=
  let written := t.takeWhile fun c => !isClosingBrace c && !(c == ':')
  let rest := t.drop written.length
  if rest.isEmpty then .error (.field .unclosed)
  else match written with
    | [] => .error (.field .noConversion)
    | [c] => if c.isIn "sra" then .ok rest else .error (.field (.unknownConversion written))
    | _ => .error (.field (.unknownConversion written))

/-- What is behind the expression, an equals sign that shows it, and the conversion of a field. -/
def behindValue (t : Text) : Except Cause Text :=
  let t : Text := match t with
    | c :: rest => if c == '=' then rest.dropWhile fun c => c.isIn " \t\n\x0b\x0c\x0d" else t
    | [] => t
  match t with
  | c :: rest => if c == '!' then behindConversion rest else .ok t
  | [] => .error (.field .unclosed)

/-- The fields inside each other: one in a text, and one in its format. -/
def fieldDepth : Nat := 2

/-- Checks the plain texts and fields at the start of a text, at a depth among formats, where a
format ends in front of a closing brace. `line` is the line on which the text ends, so that the
lines in it are counted from behind. The answer is what is left. -/
def checkParts (s : Surrounding) (isRaw : Bool) (lastLine depth : Nat) :
    Nat → Text → Except Cause Text
  | 0, t => .ok t
  | fuel + 1, t => do
    let (done, ending) ← plainPart isRaw (depth != 0) (t.length + 1) [] t
    if !isRaw then checkEscapes s.isName 0 done.reverse
    match ending with
    | .doubled rest => checkParts s isRaw lastLine depth fuel rest
    | .whole => return []
    | .brace [] => return []
    | .brace (brace :: inside) =>
      if isClosingBrace brace then return brace :: inside
      if fieldDepth ≤ depth then throw (.field .tooDeep)
      let line := lastLine - total (inside.map lineEnds)
      let (reversed, behind) ← expressionPart ⟨none, []⟩ (inside.length + 1) [] inside
      match behind with
      | [] => throw (.field .unclosed)
      | mark :: _ => checkExpression s line reversed.reverse mark
      let behind ← behindValue behind
      let behind ← match behind with
        | c :: format =>
          if !(c == ':') then pure behind
          else if format.isEmpty then throw (.field .unclosed)
          else checkParts s isRaw lastLine (depth + 1) fuel format
        | [] => pure behind
      match behind with
      | c :: rest =>
        if isClosingBrace c then checkParts s isRaw lastLine depth fuel rest
        else throw (.field .unclosed)
      | [] => throw (.field .unclosed)

def checkFields (s : Surrounding) (isRaw : Bool) (lastLine : Nat) (t : Text) : Except Cause Unit :=
  (checkParts s isRaw lastLine 0 (t.length + 1) t).map fun _ => ()

end ExposureLint.Expression
