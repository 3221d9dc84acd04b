import ExposureLint.Document.Base64
import ExposureLint.Document.Calendar
import ExposureLint.Host
import ExposureLint.Number.Numeral
import ExposureLint.Text.Utf8
import ExposureLint.Yaml.Cursor

/-!
What can be wrong with a YAML text. A complaint names the work that was being done, what went wrong
and the places of both, and its message shows the line of each place with a mark under it.
-/
namespace ExposureLint.Yaml

inductive NodeKind
  | scalar
  | sequence
  | mapping
deriving DecidableEq

def NodeKind.name : NodeKind → Text
  | .scalar => "scalar"
  | .sequence => "sequence"
  | .mapping => "mapping"

inductive Expected
  | wordChar
  | digit
  | digitOrPoint
  | digitOrSpace
  | space
  | commentOrBreak
  | closingAngle
  | uri
  | exclamation
  | uriEscape
  | indicators
  | hexDigits (count : Nat)
deriving DecidableEq

def Expected.name : Expected → Text
  | .wordChar => "alphabetic or numeric character"
  | .digit => "a digit"
  | .digitOrPoint => "a digit or '.'"
  | .digitOrSpace => "a digit or ' '"
  | .space => "' '"
  | .commentOrBreak => "a comment or a line break"
  | .closingAngle => "'>'"
  | .uri => "URI"
  | .exclamation => "'!'"
  | .uriEscape => "URI escape sequence of 2 hexadecimal numbers"
  | .indicators => "chomping or indentation indicators"
  | .hexDigits count => "escape sequence of " ++ Text.ofNat count ++ " hexadecimal numbers"

inductive TagPlace
  | node
  | directive
deriving DecidableEq

def TagPlace.name : TagPlace → Text
  | .node => "tag"
  | .directive => "directive"

inductive Context
  | nextToken
  | simpleKey
  | directive
  | anchorName
  | aliasName
  | tag (place : TagPlace)
  | tagUri (place : TagPlace)
  | blockScalar
  | doubleQuoted
  | quotedScalar
  | node
  | blockNode
  | flowNode
  | blockCollection
  | blockMapping
  | flowSequence
  | flowMapping
  | singleDocument
  | firstAnchor (name : Text)
  | mapping
  | orderedMap
  | pairs
deriving DecidableEq

def Context.message : Context → Text
  | .nextToken => "while scanning for the next token"
  | .simpleKey => "while scanning a simple key"
  | .directive => "while scanning a directive"
  | .anchorName => "while scanning an anchor"
  | .aliasName => "while scanning an alias"
  | .tag place => "while scanning a " ++ place.name
  | .tagUri place => "while parsing a " ++ place.name
  | .blockScalar => "while scanning a block scalar"
  | .doubleQuoted => "while scanning a double-quoted scalar"
  | .quotedScalar => "while scanning a quoted scalar"
  | .node => "while parsing a node"
  | .blockNode => "while parsing a block node"
  | .flowNode => "while parsing a flow node"
  | .blockCollection => "while parsing a block collection"
  | .blockMapping => "while parsing a block mapping"
  | .flowSequence => "while parsing a flow sequence"
  | .flowMapping => "while parsing a flow mapping"
  | .singleDocument => "expected a single document in the stream"
  | .firstAnchor name => "found duplicate anchor " ++ name.quoted ++ "; first occurrence"
  | .mapping => "while constructing a mapping"
  | .orderedMap => "while constructing an ordered map"
  | .pairs => "while constructing pairs"

/-- What went wrong. A `found` text is the name of a token. -/
inductive Problem
  | cannotStart (c : CodePoint)
  | noColon
  | sequenceEntry
  | mappingKey
  | mappingValue
  | expected (what : Expected) (found : CodePoint)
  | zeroIndentation
  | unknownEscape (c : CodePoint)
  | endOfStream
  | documentSeparator
  | uriEncoding (fault : Utf8.Fault)
  | documentStart (found : Text)
  | duplicateDirective
  | incompatibleVersion
  | duplicateHandle (handle : Text)
  | undefinedHandle (handle : Text)
  | nodeContent (found : Text)
  | blockEnd (found : Text)
  | flowSequenceEnd (found : Text)
  | flowMappingEnd (found : Text)
  | anotherDocument
  | undefinedAlias (name : Text)
  | secondAnchor
  | wrongKind (wanted found : NodeKind)
  | unhashableKey
  | mergeValue (found : NodeKind)
  | mergeItem (found : NodeKind)
  | base64 (fault : Base64.Fault)
  | pairList (found : NodeKind)
  | pairItem (found : NodeKind)
  | pairSize (count : Nat)
  | unknownTag (tag : Text)
deriving DecidableEq

def Problem.message : Problem → Text
  | .cannotStart c => "found character " ++ Text.quoted [c] ++ " that cannot start any token"
  | .noColon => "could not find expected ':'"
  | .sequenceEntry => "sequence entries are not allowed here"
  | .mappingKey => "mapping keys are not allowed here"
  | .mappingValue => "mapping values are not allowed here"
  | .expected what found => "expected " ++ what.name ++ ", but found " ++ Text.quoted [found]
  | .zeroIndentation => "expected indentation indicator in the range 1-9, but found 0"
  | .unknownEscape c => "found unknown escape character " ++ Text.quoted [c]
  | .endOfStream => "found unexpected end of stream"
  | .documentSeparator => "found unexpected document separator"
  | .uriEncoding fault => fault.message
  | .documentStart found => "expected '<document start>', but found " ++ found.quoted
  | .duplicateDirective => "found duplicate YAML directive"
  | .incompatibleVersion => "found incompatible YAML document (version 1.* is required)"
  | .duplicateHandle handle => "duplicate tag handle " ++ handle.quoted
  | .undefinedHandle handle => "found undefined tag handle " ++ handle.quoted
  | .nodeContent found => "expected the node content, but found " ++ found.quoted
  | .blockEnd found => "expected <block end>, but found " ++ found.quoted
  | .flowSequenceEnd found => "expected ',' or ']', but got " ++ found.quoted
  | .flowMappingEnd found => "expected ',' or '\x7d', but got " ++ found.quoted
  | .anotherDocument => "but found another document"
  | .undefinedAlias name => "found undefined alias " ++ name.quoted
  | .secondAnchor => "second occurrence"
  | .wrongKind wanted found => "expected a " ++ wanted.name ++ " node, but found " ++ found.name
  | .unhashableKey => "found unhashable key"
  | .mergeValue found =>
    "expected a mapping or list of mappings for merging, but found " ++ found.name
  | .mergeItem found => "expected a mapping for merging, but found " ++ found.name
  | .base64 fault => fault.message
  | .pairList found => "expected a sequence, but found " ++ found.name
  | .pairItem found => "expected a mapping of length 1, but found " ++ found.name
  | .pairSize count => "expected a single mapping item, but found " ++ Text.ofNat count ++ " items"
  | .unknownTag tag => "could not determine a constructor for the tag " ++ tag.quoted

/-- The part of the work: telling tokens apart, putting them together, resolving the names of nodes,
or building the value. -/
inductive Stage
  | tokens
  | grammar
  | aliases
  | values
deriving DecidableEq

structure Complaint where
  stage : Stage
  context : Option (Context × Option Mark)
  problem : Problem
  mark : Mark
deriving DecidableEq

/-- A scalar that its tag does not fit, or a code point that does not exist. -/
inductive ScalarFault
  | numeral (fault : Numeral.Fault)
  | calendar (fault : Calendar.Fault)
  | noDigits
  | notBool (written : Text)
  | notTimestamp
  | timestampOfMapping
  | codePoint
  | hugeCodePoint
  | hugeFactor
deriving DecidableEq

def ScalarFault.message : ScalarFault → Text
  | .numeral fault => fault.message
  | .calendar fault => fault.message
  | .noDigits => "string index out of range"
  | .notBool written => written.quoted
  | .notTimestamp => "'NoneType' object has no attribute 'groupdict'"
  | .timestampOfMapping => "expected string or bytes-like object, got 'list'"
  | .codePoint => "chr() arg not in range(0x110000)"
  | .hugeCodePoint => "Python int too large to convert to C int"
  | .hugeFactor => "int too large to convert to float"

inductive Fault
  | character (c : CodePoint) (pos : Nat)
  | complaint (c : Complaint)
  | scalar (fault : ScalarFault)
  | tooDeep
deriving DecidableEq

/-- How far from the mark a line is shown; a longer part is cut five code points before that, and
replaced by three dots. -/
def snippetReach : Nat := 37

def reach (t : Text) : Text × Bool :=
  let line := t.takeWhile fun c => !isBreakOrEnd c
  if snippetReach ≤ line.length then (line.take (snippetReach - 5), true) else (line, false)

def Mark.snippet (whole : Text) (m : Mark) : Text :=
  let (left, leftCut) := reach (whole.take m.index).reverse
  let (right, rightCut) := reach (whole.drop m.index)
  let dots : Text := " ... "
  let head := if leftCut then dots else []
  let tail := if rightCut then dots else []
  let blanks (n : Nat) : Text := List.replicate n (CodePoint.ofChar ' ')
  blanks 4 ++ head ++ left.reverse ++ right ++ tail ++ "\n"
    ++ blanks (4 + left.length + head.length) ++ "^"

def Mark.message (whole : Text) (m : Mark) : Text :=
  "  in \"<unicode string>\", line " ++ Text.ofNat (m.line + 1) ++ ", column "
    ++ Text.ofNat (m.column + 1) ++ ":\n" ++ m.snippet whole

/-- The place of the context is left out where it is that of the problem. -/
def Complaint.message (whole : Text) (c : Complaint) : Text :=
  let contextLines := match c.context with
    | none => []
    | some (context, mark?) =>
      context.message :: (match mark? with
        | none => []
        | some mark =>
          if mark.line == c.mark.line && mark.column == c.mark.column then []
          else [mark.message whole])
  Text.join "\n" (contextLines ++ [c.problem.message, c.mark.message whole])

def Fault.message (whole : Text) : Fault → Text
  | .character c pos =>
    "unacceptable character #x" ++ Text.ofNatHex 4 c.val
      ++ ": special characters are not allowed\n  in \"<unicode string>\", position "
      ++ Text.ofNat pos
  | .complaint c => c.message whole
  | .scalar fault => fault.message
  | .tooDeep => Host.stackMessage

end ExposureLint.Yaml
