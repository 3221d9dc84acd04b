import ExposureLint.Expression.Tree
import ExposureLint.Number.Numeral

/-!
Why a text is no expression. The causes are in its characters, in the escapes and fields of its
quoted parts, or in the order of its parts.
-/
namespace ExposureLint.Expression

inductive NumberForm
  | binary
  | octal
  | hexadecimal
  | decimal
  | imaginary
deriving DecidableEq

def NumberForm.describe : NumberForm → Text
  | .binary => "binary"
  | .octal => "octal"
  | .hexadecimal => "hexadecimal"
  | .decimal => "decimal"
  | .imaginary => "imaginary"

/-- What is wrong with an escape in a quoted text: too few digits, where `mark` is the letter and
`width` the number of digits; a number that is no code point; no name in braces; a name of nothing.
-/
inductive EscapeFault
  | short (mark : CodePoint) (width : Nat)
  | tooLarge
  | unnamed
  | unknownName
deriving DecidableEq

def EscapeFault.message : EscapeFault → Text
  | .short mark width =>
    "truncated \\" ++ [mark] ++ List.replicate width (CodePoint.ofChar 'X') ++ " escape"
  | .tooLarge => "illegal Unicode character"
  | .unnamed => "malformed \\N character escape"
  | .unknownName => "unknown Unicode character name"

/-- What is wrong with a field, the part of a quoted text that holds an expression in braces. -/
inductive FieldFault
  | loneBrace
  | unclosed
  | tooDeep
  | backslash
  | comment
  | openText
  | tooManyBrackets
  | unmatched (bracket : CodePoint)
  | mismatched (closing opening : CodePoint)
  | empty
  | emptyBefore (mark : CodePoint)
  | noConversion
  | unknownConversion (written : Text)
deriving DecidableEq

def FieldFault.message : FieldFault → Text
  | .loneBrace => "f-string: single '\x7d' is not allowed"
  | .unclosed => "f-string: expecting '\x7d'"
  | .tooDeep => "f-string: expressions nested too deeply"
  | .backslash => "f-string expression part cannot include a backslash"
  | .comment => "f-string expression part cannot include '#'"
  | .openText => "f-string: unterminated string"
  | .tooManyBrackets => "f-string: too many nested parenthesis"
  | .unmatched bracket => "f-string: unmatched '" ++ [bracket] ++ "'"
  | .mismatched closing opening =>
    "f-string: closing parenthesis '" ++ [closing] ++ "' does not match opening parenthesis '"
      ++ [opening] ++ "'"
  | .empty => "f-string: empty expression not allowed"
  | .emptyBefore mark => "f-string: expression required before '" ++ [mark] ++ "'"
  | .noConversion => "f-string: invalid conversion character: expected 's', 'r', or 'a'"
  | .unknownConversion written =>
    "f-string: invalid conversion character " ++ written.quoted ++ ": expected 's', 'r', or 'a'"

inductive Complaint
  | missingComma
  | missingElse
  | missingParentheses (name : Text)
  | strayEquals
  | notAssignable (what : Text)
  | notNameable (what : Text)
  | badTarget (what : Text)
  | assignedArgument
  | bareGenerator
  | unpackedBehindNamed
  | positionalBehindNamed (unpacked : Bool)
  | unpackedElement
  | unpackedEntry
  | bareTarget
  | starredGroup
  | doubleStarredGroup
  | starredValue
  | missingValue
  | missingColon
  | defaultOrder
  | missingDefault
  | parametersInBrackets
  | nothingBeforeSlash
  | secondSlash
  | slashBehindStar
  | missingCommaBehindSlash
  | nothingBehindStar
  | starDefault
  | secondStar
  | doubleStarDefault
  | behindDoubleStar
deriving DecidableEq

def Complaint.message : Complaint → Text
  | .missingComma => "invalid syntax. Perhaps you forgot a comma?"
  | .missingElse => "expected 'else' after 'if' expression"
  | .missingParentheses name =>
    "Missing parentheses in call to '" ++ name ++ "'. Did you mean " ++ name ++ "(...)?"
  | .strayEquals => "invalid syntax. Maybe you meant '==' or ':=' instead of '='?"
  | .notAssignable what =>
    "cannot assign to " ++ what ++ " here. Maybe you meant '==' instead of '='?"
  | .notNameable what => "cannot use assignment expressions with " ++ what
  | .badTarget what => "cannot assign to " ++ what
  | .assignedArgument =>
    "expression cannot contain assignment, perhaps you meant \"==\"?"
  | .bareGenerator => "Generator expression must be parenthesized"
  | .unpackedBehindNamed => "iterable argument unpacking follows keyword argument unpacking"
  | .positionalBehindNamed unpacked =>
    "positional argument follows keyword argument" ++ (if unpacked then " unpacking" else "")
  | .unpackedElement => "iterable unpacking cannot be used in comprehension"
  | .unpackedEntry => "dict unpacking cannot be used in dict comprehension"
  | .bareTarget => "did you forget parentheses around the comprehension target?"
  | .starredGroup => "cannot use starred expression here"
  | .doubleStarredGroup => "cannot use double starred expression here"
  | .starredValue => "cannot use a starred expression in a dictionary value"
  | .missingValue => "expression expected after dictionary key and ':'"
  | .missingColon => "':' expected after dictionary key"
  | .defaultOrder => "non-default argument follows default argument"
  | .missingDefault => "expected default value expression"
  | .parametersInBrackets => "Lambda expression parameters cannot be parenthesized"
  | .nothingBeforeSlash => "at least one argument must precede /"
  | .secondSlash => "/ may appear only once"
  | .slashBehindStar => "/ must be ahead of *"
  | .missingCommaBehindSlash => "expected comma between / and *"
  | .nothingBehindStar => "named arguments must follow bare *"
  | .starDefault => "var-positional argument cannot have default value"
  | .secondStar => "* argument may appear only once"
  | .doubleStarDefault => "var-keyword argument cannot have default value"
  | .behindDoubleStar => "arguments cannot follow var-keyword argument"

/-- Positions in escapes count from the start of the quoted text. A cause in the expression of a
field may be told as `within` one. -/
inductive Cause
  | badNumber (form : NumberForm)
  | badDigit (digit : CodePoint) (form : NumberForm)
  | leadingZeros
  | tooManyDigits (count : Nat)
  | badCharacter (c : CodePoint)
  | openText (line : Nat)
  | openLongText (line : Nat)
  | strayBackslash
  | ended
  | unclosed (bracket : CodePoint)
  | unopened (bracket : CodePoint)
  | mismatched (closing opening : CodePoint) (line : Option Nat)
  | tooManyBrackets
  | indented
  | unevenIndent
  | mixedIndent
  | tooManyIndents
  | bytesNotAscii
  | mixedQuoted
  | escape (first stop : Nat) (fault : EscapeFault)
  | byteEscape (pos : Nat)
  | field (fault : FieldFault)
  | malformed
  | complaint (what : Complaint)
  | within (cause : Cause)
deriving DecidableEq

namespace Cause

/-- A cause in the characters is urgent: it counts even where the expression is wrong before it. -/
def isUrgent : Cause → Bool
  | .badNumber _ | .badDigit _ _ | .leadingZeros | .badCharacter _ | .openText _ | .openLongText _
  | .unopened _ | .mismatched _ _ _ | .tooManyBrackets => true
  | _ => false

/-- A cause as it is told of the expression in a field, once only and unless it is urgent. -/
def inField : Cause → Cause
  | .within cause => .within cause
  | cause => if cause.isUrgent then cause else .within cause

def message : Cause → Text
  | .badNumber form => "invalid " ++ form.describe ++ " literal"
  | .badDigit digit form => "invalid digit '" ++ [digit] ++ "' in " ++ form.describe ++ " literal"
  | .leadingZeros =>
    "leading zeros in decimal integer literals are not permitted; "
      ++ "use an 0o prefix for octal integers"
  | .tooManyDigits count =>
    (Numeral.Fault.tooManyDigits count).message
      ++ " - Consider hexadecimal for huge integer literals to avoid decimal conversion limits."
  | .badCharacter c =>
    let number := "U+" ++ Text.upperAscii (Text.ofNatHex 4 c.val)
    if c.isPrintable then "invalid character '" ++ [c] ++ "' (" ++ number ++ ")"
    else "invalid non-printable character " ++ number
  | .openText line => "unterminated string literal (detected at line " ++ Text.ofNat line ++ ")"
  | .openLongText line =>
    "unterminated triple-quoted string literal (detected at line " ++ Text.ofNat line ++ ")"
  | .strayBackslash => "unexpected character after line continuation character"
  | .ended => "unexpected EOF while parsing"
  | .unclosed bracket => "'" ++ [bracket] ++ "' was never closed"
  | .unopened bracket => "unmatched '" ++ [bracket] ++ "'"
  | .mismatched closing opening line =>
    "closing parenthesis '" ++ [closing] ++ "' does not match opening parenthesis '" ++ [opening]
      ++ "'" ++ (line.map fun n => (" on line " ++ Text.ofNat n : Text)).getD []
  | .tooManyBrackets => "too many nested parentheses"
  | .indented => "unexpected indent"
  | .unevenIndent => "unindent does not match any outer indentation level"
  | .mixedIndent => "inconsistent use of tabs and spaces in indentation"
  | .tooManyIndents => "too many levels of indentation"
  | .bytesNotAscii => "bytes can only contain ASCII literal characters"
  | .mixedQuoted => "cannot mix bytes and nonbytes literals"
  | .escape first stop fault =>
    "(unicode error) 'unicodeescape' codec can't decode bytes in position " ++ Text.ofNat first
      ++ "-" ++ Text.ofNat (stop - 1) ++ ": " ++ fault.message
  | .byteEscape pos => "(value error) invalid \\x escape at position " ++ Text.ofNat pos
  | .field fault => fault.message
  | .malformed => "invalid syntax"
  | .complaint what => what.message
  | .within cause => "f-string: " ++ cause.message

end Cause
end ExposureLint.Expression
