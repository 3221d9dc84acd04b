import ExposureLint.Yaml.Token.Block
import ExposureLint.Yaml.Token.Plain

/-!
The row of tokens of a text. A key need not be marked as such: whatever may be one is kept as a
candidate until a colon follows on the same line, and then the mark of a key is put in front of it.
No token is handed out while the mark of a key might still come before it. Blocks open where a line
is indented further, and close where one is indented less.
-/
namespace ExposureLint.Yaml

/-- A token that is a key if a colon follows, at the given depth of brackets. A required one begins
a line of a block, where nothing but a key can stand. -/
structure Candidate where
  level : Int
  number : Nat
  required : Bool
  mark : Mark

/-- `waiting` are the tokens not handed out yet, and `handed` is the number of those that were.
`level` is the depth of brackets, below zero after closing ones too many. -/
structure Lexer where
  cursor : Cursor
  level : Int
  indent : Int
  outer : List Int
  keyAllowed : Bool
  candidates : List Candidate
  waiting : List Token
  handed : Nat
  done : Bool

namespace Lexer

def start (t : Text) : Lexer := ⟨Cursor.start t, 0, -1, [], true, [], [], 0, false⟩

def inFlow (l : Lexer) : Bool := l.level != 0

def push (l : Lexer) (t : Token) : Lexer := { l with waiting := l.waiting ++ [t] }

/-- A token that no text stands for. -/
def pushUnwritten (l : Lexer) (lexeme : Lexeme) : Lexer :=
  l.push ⟨lexeme, l.cursor.mark, l.cursor.mark⟩

def pushSigns (l : Lexer) (lexeme : Lexeme) (size : Nat) : Lexer :=
  let after := l.cursor.skip size
  { l.push ⟨lexeme, l.cursor.mark, after.mark⟩ with cursor := after }

def pushScanned (l : Lexer) (scanned : Scanned) : Except Fault Lexer := do
  let (t, after) ← scanned
  return { l.push t with cursor := after }

def notKey (l : Lexer) (c : Candidate) : Fault :=
  .complaint ⟨.tokens, some (.simpleKey, some c.mark), .noColon, l.cursor.mark⟩

/-- A candidate is past once its line ended or a thousand code points went by. -/
def isPast (l : Lexer) (c : Candidate) : Bool :=
  c.mark.line != l.cursor.mark.line || 1024 < l.cursor.mark.index - c.mark.index

/-- Gives up the candidates that satisfy `p`, of which none may be required. -/
def giveUp (p : Candidate → Bool) (l : Lexer) : Except Fault Lexer :=
  match l.candidates.find? fun c => p c && c.required with
  | some c => .error (l.notKey c)
  | none => .ok { l with candidates := l.candidates.filter fun c => !p c }

def giveUpPast (l : Lexer) : Except Fault Lexer := l.giveUp l.isPast

def giveUpHere (l : Lexer) : Except Fault Lexer := l.giveUp fun c => c.level == l.level

def noteCandidate (l : Lexer) : Except Fault Lexer :=
  if l.keyAllowed then do
    let required := !l.inFlow && l.indent == l.cursor.column
    let l ← l.giveUpHere
    let c : Candidate := ⟨l.level, l.handed + l.waiting.length, required, l.cursor.mark⟩
    return { l with candidates := l.candidates ++ [c] }
  else .ok l

/-- The number of blocks that end at a column, and the indentations that stay. -/
def closing (column : Int) : Int → List Int → Nat × Int × List Int
  | indent, [] => (0, indent, [])
  | indent, next :: outer =>
    if column < indent then
      let (count, indent, outer) := closing column next outer
      (count + 1, indent, outer)
    else (0, indent, next :: outer)

/-- Ends the blocks that are indented further than a column; brackets have no indentation. -/
def closeBlocks (column : Int) (l : Lexer) : Lexer :=
  if l.inFlow then l
  else
    let (count, indent, outer) := closing column l.indent l.outer
    let ends := List.replicate count (Token.mk .blockEnd l.cursor.mark l.cursor.mark)
    { l with indent := indent, outer := outer, waiting := l.waiting ++ ends }

def openBlock? (column : Nat) (l : Lexer) : Option Lexer :=
  if l.indent < column then some { l with indent := column, outer := l.indent :: l.outer }
  else none

/-- Spaces, comments and line ends; after a line end a key may stand. -/
def skipGaps : Nat → Lexer → Lexer
  | 0, l => l
  | fuel + 1, l =>
    let c := l.cursor.skipSpaces
    let c := if c.peek == '#' then c.skipLine else c
    if isBreak c.peek then
      skipGaps fuel { l with cursor := c.lineBreak.2, keyAllowed := l.keyAllowed || !l.inFlow }
    else { l with cursor := c }

/-- A byte order mark at the start of the text does not count. -/
def skipToToken (l : Lexer) : Lexer :=
  let c := l.cursor
  let c := if c.mark.index == 0 && c.peek == '\ufeff' then c.step else c
  skipGaps (c.rest.length + 1) { l with cursor := c }

/-- Ends all blocks and candidates, before what stands outside any document. -/
def leaveDocument (l : Lexer) : Except Fault Lexer := do
  let l ← (l.closeBlocks (-1)).giveUpHere
  return { l with keyAllowed := false }

def fetchStreamEnd (l : Lexer) : Except Fault Lexer := do
  let l ← l.leaveDocument
  return { l.pushUnwritten .streamEnd with candidates := [], done := true }

def fetchDirective (l : Lexer) : Except Fault Lexer := do
  let l ← l.leaveDocument
  l.pushScanned (scanDirective l.cursor)

def fetchSeparator (lexeme : Lexeme) (l : Lexer) : Except Fault Lexer := do
  let l ← l.leaveDocument
  return l.pushSigns lexeme 3

def fetchFlowStart (lexeme : Lexeme) (l : Lexer) : Except Fault Lexer := do
  let l ← l.noteCandidate
  return { l.pushSigns lexeme 1 with level := l.level + 1, keyAllowed := true }

def fetchFlowEnd (lexeme : Lexeme) (l : Lexer) : Except Fault Lexer := do
  let l ← l.giveUpHere
  return { l.pushSigns lexeme 1 with level := l.level - 1, keyAllowed := false }

def fetchFlowEntry (l : Lexer) : Except Fault Lexer := do
  let l ← l.giveUpHere
  return { l.pushSigns .flowEntry 1 with keyAllowed := true }

/-- An indicator is refused where no new item of a block may begin. -/
def refuseUnlessAllowed (problem : Problem) (l : Lexer) : Except Fault Unit :=
  if l.inFlow || l.keyAllowed then .ok ()
  else .error (.complaint ⟨.tokens, none, problem, l.cursor.mark⟩)

def openHere (lexeme : Lexeme) (l : Lexer) : Lexer :=
  if l.inFlow then l
  else match l.openBlock? l.cursor.column with
    | some l => l.pushUnwritten lexeme
    | none => l

def fetchBlockEntry (l : Lexer) : Except Fault Lexer := do
  l.refuseUnlessAllowed .sequenceEntry
  let l ← (l.openHere .blockSequenceStart).giveUpHere
  return { l.pushSigns .blockEntry 1 with keyAllowed := true }

def fetchKey (l : Lexer) : Except Fault Lexer := do
  l.refuseUnlessAllowed .mappingKey
  let l ← (l.openHere .blockMappingStart).giveUpHere
  return { l.pushSigns .key 1 with keyAllowed := !l.inFlow }

def insertBefore (number : Nat) (tokens : List Token) (l : Lexer) : Lexer :=
  let place := number - l.handed
  { l with waiting := l.waiting.take place ++ tokens ++ l.waiting.drop place }

/-- A colon makes a key of the candidate at its depth, if there is one. -/
def fetchValue (l : Lexer) : Except Fault Lexer :=
  match l.candidates.find? fun c => c.level == l.level with
  | some c =>
    let l := { l with candidates := l.candidates.filter fun d => d.level != l.level }
    let key : Token := ⟨.key, c.mark, c.mark⟩
    let opened := if l.inFlow then none else l.openBlock? c.mark.column
    let l := match opened with
      | some l => l.insertBefore c.number [⟨.blockMappingStart, c.mark, c.mark⟩, key]
      | none => l.insertBefore c.number [key]
    .ok { l.pushSigns .value 1 with keyAllowed := false }
  | none => do
    l.refuseUnlessAllowed .mappingValue
    let l ← (l.openHere .blockMappingStart).giveUpHere
    return { l.pushSigns .value 1 with keyAllowed := !l.inFlow }

/-- A token that may be a key, and after which none may follow at once. -/
def fetchNamed (scan : Cursor → Scanned) (l : Lexer) : Except Fault Lexer := do
  let l ← l.noteCandidate
  { l with keyAllowed := false }.pushScanned (scan l.cursor)

def fetchBlock (l : Lexer) : Except Fault Lexer := do
  let l ← l.giveUpHere
  { l with keyAllowed := true }.pushScanned (scanBlock l.indent l.cursor)

def fetchPlain (l : Lexer) : Except Fault Lexer := do
  let l ← l.noteCandidate
  let (t, lineEnded, after) := scanPlain l.inFlow l.indent l.cursor
  return { l.push t with cursor := after, keyAllowed := lineEnded }

def startsPlain (l : Lexer) : Bool :=
  let c := l.cursor.peek
  !(isGapOrEnd c || c.isIn "-?:,[]\x7b\x7d#&*!|>\x27\"%@\x60")
    || (!isGapOrEnd (l.cursor.peekAt 1) && (c == '-' || (!l.inFlow && (c == '?' || c == ':'))))

def fetch (l : Lexer) : Except Fault Lexer := do
  let l ← l.skipToToken.giveUpPast
  let l := l.closeBlocks l.cursor.column
  let c := l.cursor
  let x := c.peek
  let gapAfter := isGapOrEnd (c.peekAt 1)
  let atLineStart := c.column == 0
  if x == CodePoint.nul then l.fetchStreamEnd
  else if x == '%' && atLineStart then l.fetchDirective
  else if x == '-' && atLineStart && c.atSeparator then l.fetchSeparator .documentStart
  else if x == '.' && atLineStart && c.atSeparator then l.fetchSeparator .documentEnd
  else if x == '[' then l.fetchFlowStart .flowSequenceStart
  else if x == '\x7b' then l.fetchFlowStart .flowMappingStart
  else if x == ']' then l.fetchFlowEnd .flowSequenceEnd
  else if x == '\x7d' then l.fetchFlowEnd .flowMappingEnd
  else if x == ',' then l.fetchFlowEntry
  else if x == '-' && gapAfter then l.fetchBlockEntry
  else if x == '?' && (l.inFlow || gapAfter) then l.fetchKey
  else if x == ':' && (l.inFlow || gapAfter) then l.fetchValue
  else if x == '*' || x == '&' then l.fetchNamed scanAnchor
  else if x == '!' then l.fetchNamed scanTag
  else if (x == '|' || x == '>') && !l.inFlow then l.fetchBlock
  else if x == '\x27' || x == '"' then l.fetchNamed scanQuoted
  else if l.startsPlain then l.fetchPlain
  else .error (.complaint ⟨.tokens, some (.nextToken, none), .cannotStart x, c.mark⟩)

/-- Whether the first waiting token might still become a key. -/
def isUndecided (l : Lexer) : Bool :=
  (l.candidates.map (·.number)).min? == some l.handed

def settle : Nat → Lexer → Except Fault Lexer
  | 0, l => .ok l
  | fuel + 1, l => do
    if l.done then return l
    else if l.waiting.isEmpty then
      let l ← l.fetch
      settle fuel l
    else
      let l ← l.giveUpPast
      if l.isUndecided then
        let l ← l.fetch
        settle fuel l
      else return l

end Lexer

/-- The tokens that can be handed out, and what is wrong with the text after the last of them. -/
structure Feed where
  tokens : List Token
  fault : Option Fault

/-- Each token is settled before it is handed out. Every step reads at least one code point, and one
code point makes four tokens at the most. -/
def feedFrom : Nat → Lexer → Feed
  | 0, _ => ⟨[], none⟩
  | fuel + 1, l =>
    match l.settle (l.cursor.rest.length + 2) with
    | .error fault => ⟨[], some fault⟩
    | .ok l =>
      match l.waiting with
      | [] => ⟨[], none⟩
      | t :: waiting =>
        let more := feedFrom fuel { l with waiting := waiting, handed := l.handed + 1 }
        { more with tokens := t :: more.tokens }

def feed (t : Text) : Feed := feedFrom (4 * t.length + 8) (Lexer.start t)

end ExposureLint.Yaml
