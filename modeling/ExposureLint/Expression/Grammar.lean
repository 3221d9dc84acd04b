import ExposureLint.Expression.Reading

/-!
The grammar of expressions, with what is known to be wrong in them. Each rule is a reader that is
given the rules whose findings are kept. Where a part of a rule ends in `complain`, it tells a
mistake from others. Lists and subscripts are not in it: no text that is read has their brackets.
-/
namespace ExposureLint.Expression

open Reader

namespace Grammar

/-! ### Words -/

def name : Reader Text := token fun t =>
  match t.lexeme with
  | .name n => some n
  | _ => none

def number : Reader Tree := do
  let written ← token fun t =>
    match t.lexeme with
    | .number w => some w
    | _ => none
  return .constant (.number (← ofExcept (Number.ofText written)))

def quotedPart : Reader (Text × Nat) := token fun t =>
  match t.lexeme with
  | .quoted w => some (w, t.line)
  | _ => none

def quoted : Reader Tree := do
  let parts ← several quotedPart
  fun s p => ofExcept (Tree.ofQuoted s.surrounding parts) s p

def exactly (lexeme : Lexeme) : Reader Unit :=
  token fun t => if t.lexeme = lexeme then some () else none

/-- Names that are words of statements elsewhere. -/
def softWord : Reader Unit := do
  if isOneOf ["_", "case", "match"] (← name) then return () else absent

/-- Words that once were followed by what they are applied to, without brackets. -/
def bareWords : List String := ["print", "exec"]

def isBareWord (e : Tree) : Bool :=
  match e with
  | .name n => isOneOf bareWords n
  | _ => false

def constantWord : Reader Tree :=
  first ([("True", .bool true), ("False", .bool false), ("None", .null)].map
    fun (word, c) => do fixed word; return .constant c)

/-- What a row of items separated by commas is: the item itself, or a tuple. -/
def tupleOf (items : List Tree × Bool) : Tree :=
  match items with
  | ([e], false) => e
  | (items, _) => .tuple items

section

variable (rule : Rule → Reader Tree)

/-! ### Rows and names given to values -/

def expressions : Reader Tree := tupleOf <$> series (rule .expression)

def starExpressions : Reader Tree := tupleOf <$> series (rule .starExpression)

def starExpression : Reader Tree :=
  first [do fixed "*"; return .starred (← rule .bitOr), rule .expression]

def naming : Reader Tree := do
  let _ ← name
  fixed ":="
  let _ ← rule .expression
  return .other .naming

def unnamed : Reader Tree := do
  let e ← rule .expression
  notFollowed (fixed ":=")
  return e

def maybeNaming : Reader Tree := first [naming rule, unnamed rule]

def named : Reader Tree :=
  first [naming rule, diagnosing (rule .misnaming), unnamed rule]

def starNamed : Reader Tree :=
  first [do fixed "*"; return .starred (← rule .bitOr), named rule]

def starNameds : Reader (List Tree) := (·.1) <$> series (starNamed rule)

def starredArgument : Reader Tree := do
  fixed "*"
  return .starred (← rule .expression)

def yielded : Reader Tree := first [
  do
    fixed "yield"
    fixed "from"
    let _ ← rule .expression
    return .other .yielded,
  do
    fixed "yield"
    let _ ← optional (starExpressions rule)
    return .other .yielded]

/-! ### Loops inside brackets -/

def loopTargets : Reader Unit := do
  let _ ← series (rule .target)

def loopTarget : Reader Tree := first [
  do
    fixed "*"
    notFollowed (fixed "*")
    rule .target,
  rule .targetEnd]

def targetGoesOn : Reader Unit := first [fixed "(", fixed "."]

/-- Targets inside brackets; a single one has a comma behind it. -/
def targetRow : Reader Unit := do
  let (targets, trailing) ← series (rule .target)
  if targets.length == 1 && !trailing then absent else return ()

def targetAtom : Reader Tree := first [
  do return .name (← name),
  do
    fixed "("
    let e ← rule .targetEnd
    fixed ")"
    return e,
  do
    fixed "("
    let _ ← optional (targetRow rule)
    fixed ")"
    return .tuple []]

def targetEnd : Reader Tree := first [
  do
    let _ ← rule .targetStart
    fixed "."
    let _ ← name
    notFollowed targetGoesOn
    return .other .attribute,
  targetAtom rule]

/-- A loop whose target is none that can be assigned to. -/
def targetMistake : Reader Unit := do
  let _ ← optional (fixed "async")
  fixed "for"
  match (← starExpressions rule).misplaced? with
  | some e => complain (.badTarget e.describe)
  | none => refuse

def loopBody : Reader Unit := do
  fixed "for"
  loopTargets rule
  fixed "in"
  committed do
    let _ ← rule .disjunction
    let _ ← many do
      fixed "if"
      rule .disjunction

def loop : Reader Unit := first [
  do
    fixed "async"
    loopBody rule,
  loopBody rule,
  diagnosing (targetMistake rule)]

def loops : Reader Unit := do
  let _ ← several (loop rule)

def loopMistake : Reader Tree := first [
  do
    first [fixed "(", fixed "\x7b"]
    let _ ← starredArgument rule
    loops rule
    complain .unpackedElement,
  do
    fixed "\x7b"
    let _ ← starNamed rule
    fixed ","
    let _ ← starNameds rule
    loops rule
    complain .bareTarget,
  do
    fixed "\x7b"
    let _ ← starNamed rule
    fixed ","
    loops rule
    complain .bareTarget]

def generator : Reader Tree := first [
  do
    fixed "("
    let _ ← maybeNaming rule
    loops rule
    fixed ")"
    return .other .generator,
  diagnosing (loopMistake rule)]

/-! ### Brackets -/

def tuple : Reader Tree := do
  fixed "("
  let items ← optional do
    let head ← starNamed rule
    fixed ","
    return head :: ((← optional (starNameds rule)).getD [])
  fixed ")"
  return .tuple (items.getD [])

def groupMistake : Reader Tree := first [
  do
    fixed "("
    let _ ← starredArgument rule
    fixed ")"
    complain .starredGroup,
  do
    fixed "("
    fixed "**"
    let _ ← rule .expression
    fixed ")"
    complain .doubleStarredGroup]

def group : Reader Tree := first [
  do
    fixed "("
    let e ← first [yielded rule, named rule]
    fixed ")"
    return e,
  diagnosing (groupMistake rule)]

def set : Reader Tree := do
  fixed "\x7b"
  let items ← starNameds rule
  fixed "\x7d"
  return .set items

def entry : Reader (Tree × Tree) := do
  let key ← rule .expression
  fixed ":"
  return (key, ← rule .expression)

def starredEntry : Reader (Tree × Tree) := first [
  do
    fixed "**"
    return (.nothing, ← rule .bitOr),
  entry rule]

def valueMistakes : List (Reader Tree) := [
  do
    let _ ← rule .expression
    fixed ":"
    fixed "*"
    let _ ← rule .bitOr
    complain .starredValue,
  do
    let _ ← rule .expression
    fixed ":"
    followed (first [fixed "\x7d", fixed ","])
    complain .missingValue]

def entryMistake : Reader Tree := first ([
  do
    let _ ← rule .expression
    notFollowed (fixed ":")
    complain .missingColon]
  ++ valueMistakes rule)

/-- Mistakes in entries are told in any reading, not in a diagnosis only. -/
def entriesMistake : Reader Tree := first ([
  do
    let _ ← separated (starredEntry rule)
    fixed ","
    entryMistake rule]
  ++ valueMistakes rule)

def map : Reader Tree := first [
  do
    fixed "\x7b"
    let entries ← optional (series (starredEntry rule))
    fixed "\x7d"
    return .map ((entries.map (·.1)).getD []),
  do
    fixed "\x7b"
    entriesMistake rule]

def mapLoop : Reader Tree := first [
  do
    fixed "\x7b"
    let _ ← entry rule
    loops rule
    fixed "\x7d"
    return .other .mapComprehension,
  diagnosing do
    fixed "\x7b"
    fixed "**"
    let _ ← rule .bitOr
    loops rule
    fixed "\x7d"
    complain .unpackedEntry]

def setLoop : Reader Tree := first [
  do
    fixed "\x7b"
    let _ ← named rule
    loops rule
    fixed "\x7d"
    return .other .setComprehension,
  diagnosing (loopMistake rule)]

def atom : Reader Tree := first [
  do return .name (← name),
  constantWord,
  do
    followed quotedPart
    rule .quoted,
  number,
  do
    followed (fixed "(")
    first [tuple rule, group rule, generator rule],
  do
    followed (fixed "\x7b")
    first [map rule, set rule, mapLoop rule, setLoop rule],
  do
    fixed "..."
    return .constant .ellipsis]

/-! ### Calls -/

def argument : Reader Arguments := do
  let _ ← first [starredArgument rule, do
    let e ← maybeNaming rule
    notFollowed (fixed "=")
    return e]
  return ⟨1, []⟩

def namedArgument : Reader Arguments := do
  let _ ← name
  fixed "="
  let _ ← rule .expression
  return ⟨0, [false]⟩

def namedMistake : Reader Arguments := first [
  do
    let c ← constantWord
    fixed "="
    complain (.badTarget c.describe),
  do
    let _ ← name
    fixed "="
    let _ ← rule .expression
    loops rule
    complain .strayEquals,
  do
    notFollowed do let _ ← name; fixed "="
    let _ ← rule .expression
    fixed "="
    complain .assignedArgument]

def namedOrStarred : Reader Arguments := first [
  diagnosing (namedMistake rule),
  namedArgument rule,
  do
    let _ ← starredArgument rule
    return ⟨1, []⟩]

def namedOrDoubleStarred : Reader Arguments := first [
  diagnosing (namedMistake rule),
  namedArgument rule,
  do
    fixed "**"
    let _ ← rule .expression
    return ⟨0, [true]⟩]

def allNamed : Reader (List Arguments) := first [
  do
    let some ← separated (namedOrStarred rule)
    fixed ","
    return some ++ (← separated (namedOrDoubleStarred rule)),
  separated (namedOrStarred rule),
  separated (namedOrDoubleStarred rule)]

def orderedArguments : Reader Arguments := first [
  do
    let positional ← separated (argument rule)
    let named ← optional do fixed ","; allNamed rule
    return joined (positional ++ named.getD []),
  joined <$> allNamed rule]
where
  joined (parts : List Arguments) : Arguments :=
    ⟨total (parts.map (·.positional)), parts.flatMap (·.named)⟩

def argumentsMistake : Reader Tree := first [
  do
    let _ ← orderedArguments rule
    fixed ","
    fixed "*"
    complain .unpackedBehindNamed,
  do
    let _ ← rule .expression
    loops rule
    fixed ","
    let _ ← optional (first [
      do let _ ← orderedArguments rule,
      do let _ ← rule .expression; loops rule])
    complain .bareGenerator,
  do
    let _ ← name
    fixed "="
    let _ ← rule .expression
    loops rule
    complain .strayEquals,
  do
    let a ← orderedArguments rule
    loops rule
    if a.positional ≤ 1 then refuse else complain .bareGenerator,
  do
    let _ ← orderedArguments rule
    fixed ","
    let _ ← rule .expression
    loops rule
    complain .bareGenerator,
  do
    let a ← orderedArguments rule
    fixed ","
    let _ ← orderedArguments rule
    complain (.positionalBehindNamed (a.named.any id))]

/-- The arguments of a call, as a call of nothing. -/
def arguments : Reader Tree := first [
  do
    let a ← orderedArguments rule
    let _ ← optional (fixed ",")
    followed (fixed ")")
    return .call .nothing a,
  diagnosing (argumentsMistake rule)]

def suffixed (e : Tree) : Reader Tree := first [
  do
    fixed "."
    let _ ← name
    return .other .attribute,
  do
    let _ ← generator rule
    return .call e ⟨1, []⟩,
  do
    fixed "("
    let a ← optional (rule .arguments)
    fixed ")"
    return match a with
      | some (.call _ a) => .call e a
      | _ => .call e ⟨0, []⟩]

def primary : Reader Tree := growing (atom rule) (suffixed rule)

def targetStart : Reader Tree := growing (goingOn (atom rule)) fun e => goingOn (suffixed rule e)
where
  goingOn (r : Reader Tree) : Reader Tree := do
    let e ← r
    followed targetGoesOn
    return e

/-! ### Functions without a name -/

def parameter : Reader Unit := do
  let _ ← name

def default : Reader Unit := first [
  do
    fixed "="
    let _ ← rule .expression,
  diagnosing do
    fixed "="
    followed (first [fixed ")", fixed ","])
    complain .missingDefault]

/-- The end of a parameter: a comma, or nothing in front of the colon. -/
def parameterEnd : Reader Unit := first [fixed ",", followed (fixed ":")]

def plainParameter : Reader Unit := do
  parameter
  parameterEnd

def defaultParameter : Reader Unit := do
  parameter
  default rule
  parameterEnd

def anyParameter : Reader Unit := do
  parameter
  let _ ← optional (default rule)
  parameterEnd

def slashed : Reader Unit := do
  let _ ← several plainParameter
  fixed "/"
  parameterEnd

def slashedDefault : Reader Unit := do
  let _ ← many plainParameter
  let _ ← several (defaultParameter rule)
  fixed "/"
  parameterEnd

def anySlashed : Reader Unit := first [slashed, slashedDefault rule]

def doubleStarMistake : Reader Unit := do
  fixed "**"
  parameter
  first [
    do
      fixed "="
      complain .doubleStarDefault,
    do
      fixed ","
      first [parameter, fixed "*", fixed "**", fixed "/"]
      complain .behindDoubleStar]

def doubleStarParameter : Reader Unit := first [
  diagnosing doubleStarMistake,
  do
    fixed "**"
    plainParameter]

def starMistake : Reader Unit := do
  fixed "*"
  first [
    do
      first [fixed ":", do fixed ","; first [fixed ":", fixed "**"]]
      complain .nothingBehindStar,
    do
      parameter
      fixed "="
      complain .starDefault,
    do
      first [plainParameter, fixed ","]
      let _ ← many (anyParameter rule)
      fixed "*"
      first [plainParameter, fixed ","]
      complain .secondStar]

def starParameters : Reader Unit := first [
  diagnosing (starMistake rule),
  do
    fixed "*"
    plainParameter
    let _ ← many (anyParameter rule)
    let _ ← optional doubleStarParameter,
  do
    fixed "*"
    fixed ","
    let _ ← several (anyParameter rule)
    let _ ← optional doubleStarParameter,
  doubleStarParameter]

def parametersMistake : Reader Unit := first [
  do
    let _ ← many plainParameter
    first [slashedDefault rule, do let _ ← several (defaultParameter rule)]
    plainParameter
    complain .defaultOrder,
  do
    let _ ← many plainParameter
    fixed "("
    let _ ← series parameter
    fixed ")"
    complain .parametersInBrackets,
  do
    fixed "/"
    fixed ","
    complain .nothingBeforeSlash,
  do
    anySlashed rule
    let _ ← many (anyParameter rule)
    fixed "/"
    complain .secondSlash,
  do
    let _ ← optional (anySlashed rule)
    let _ ← many (anyParameter rule)
    fixed "*"
    first [fixed ",", plainParameter]
    let _ ← many (anyParameter rule)
    fixed "/"
    complain .slashBehindStar,
  do
    let _ ← several (anyParameter rule)
    fixed "/"
    fixed "*"
    complain .missingCommaBehindSlash]

def parameters : Reader Unit := first [
  diagnosing (parametersMistake rule),
  do
    slashed
    let _ ← many plainParameter
    let _ ← many (defaultParameter rule)
    let _ ← optional (starParameters rule),
  do
    slashedDefault rule
    let _ ← many (defaultParameter rule)
    let _ ← optional (starParameters rule),
  do
    let _ ← several plainParameter
    let _ ← many (defaultParameter rule)
    let _ ← optional (starParameters rule),
  do
    let _ ← several (defaultParameter rule)
    let _ ← optional (starParameters rule),
  starParameters rule]

def lambda : Reader Tree := do
  fixed "lambda"
  let _ ← optional (parameters rule)
  fixed ":"
  let _ ← rule .expression
  return .other .lambda

/-! ### Signs -/

def chain (operand : Rule) (signs : List (String × Sign)) : Reader Tree :=
  growing (rule operand) fun left => first (signs.map fun (word, sign) => do
    fixed word
    return .binary sign left (← rule operand))

def joined (operand : Rule) (word : String) : Reader Tree := do
  let e ← rule operand
  let others ← many do fixed word; rule operand
  return if others.isEmpty then e else .other .truth

def awaited : Reader Tree := first [
  do
    fixed "await"
    let _ ← rule .primary
    return .other .awaited,
  rule .primary]

def power : Reader Tree := first [
  do
    let base ← rule .awaited
    fixed "**"
    return .binary .other base (← rule .factor),
  rule .awaited]

def factor : Reader Tree :=
  first ([("+", Sign.plus), ("-", .minus), ("~", .other)].map (fun (word, sign) => do
    fixed word
    return .unary sign (← rule .factor)) ++ [power rule])

/-- A sign or word of a comparison with its right side, and whether it is the one for membership. -/
def compared : Reader Bool := do
  let isMembership ← first ([["=="], ["!="], ["<="], ["<"], [">="], [">"], ["not", "in"], ["in"],
    ["is", "not"], ["is"]].map fun words => do
      words.forM fixed
      return words == ["in"])
  let _ ← rule .bitOr
  return isMembership

def comparison : Reader Tree := do
  let e ← rule .bitOr
  return match ← many (compared rule) with
    | [] => e
    | isMembership :: _ => .comparison e isMembership

def inversion : Reader Tree := first [
  do
    fixed "not"
    return .unary .other (← rule .inversion),
  comparison rule]

/-! ### Expressions -/

def choices : List (Reader Tree) := [
  do
    let _ ← rule .disjunction
    fixed "if"
    let _ ← rule .disjunction
    fixed "else"
    let _ ← rule .expression
    return .other .conditional,
  rule .disjunction,
  lambda rule]

/-- Two expressions side by side, or a condition without an alternative. A comma can be missing in
brackets only, and not behind a name that looks like the mark of a quoted part. -/
def neighbours : Reader Tree := first [
  do
    notFollowed (first [do let _ ← name; let _ ← quotedPart, softWord])
    let e ← rule .disjunction
    let _ ← plainly (first (choices rule))
    if isBareWord e then refuse
    if (← level) == 0 then refuse
    complain .missingComma,
  do
    let _ ← rule .disjunction
    fixed "if"
    let _ ← rule .disjunction
    notFollowed (first [fixed "else", fixed ":"])
    complain .missingElse]

def bareCall : Reader Tree := do
  let n ← name
  notFollowed (fixed "(")
  let _ ← starExpressions rule
  if isBareWord (.name n) then complain (.missingParentheses n) else absent

def expression : Reader Tree :=
  first ([diagnosing (neighbours rule), diagnosing (bareCall rule)] ++ choices rule)

/-- Values given to what is no name, or with a sign that does not give a name to them. -/
def misnaming : Reader Tree := first [
  do
    let e ← rule .expression
    fixed ":="
    let _ ← rule .expression
    complain (.notNameable e.describe),
  do
    let _ ← name
    fixed "="
    let _ ← rule .bitOr
    notFollowed anyEquals
    complain .strayEquals,
  do
    notFollowed (first [tuple rule, generator rule, constantWord])
    let e ← rule .bitOr
    fixed "="
    let _ ← rule .bitOr
    notFollowed anyEquals
    complain (.notAssignable e.describe)]
where
  anyEquals : Reader Unit := first [fixed "=", fixed ":="]

def body : Rule → Reader Tree
  | .expression => expression rule
  | .starExpression => starExpression rule
  | .disjunction => joined rule .conjunction "or"
  | .conjunction => joined rule .inversion "and"
  | .inversion => inversion rule
  | .bitOr => chain rule .bitXor [("|", .other)]
  | .bitXor => chain rule .bitAnd [("^", .other)]
  | .bitAnd => chain rule .shift [("&", .other)]
  | .shift => chain rule .sum [("<<", .other), (">>", .other)]
  | .sum => chain rule .term [("+", .plus), ("-", .minus)]
  | .term =>
    chain rule .factor [("*", .other), ("/", .other), ("//", .other), ("%", .other), ("@", .other)]
  | .factor => factor rule
  | .awaited => awaited rule
  | .primary => primary rule
  | .quoted => quoted
  | .arguments => arguments rule
  | .target => loopTarget rule
  | .targetEnd => targetEnd rule
  | .targetStart => targetStart rule
  | .misnaming => misnaming rule

/-- An expression, and nothing behind it but line ends. -/
def whole : Reader Tree := do
  let e ← expressions rule
  let _ ← many (exactly .lineEnd)
  exactly .ending
  return e

end

/-- The reader of a rule. A rule that is read inside another one at the same position is a later
part of the grammar, so `fuel` goes down by less than a fixed number from token to token. -/
def read : Nat → Rule → Reader Tree
  | 0, _ => absent
  | fuel + 1, rule => keeping rule (body (read fuel) rule)

end Grammar
end ExposureLint.Expression
