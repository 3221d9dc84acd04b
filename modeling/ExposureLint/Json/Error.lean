import ExposureLint.Host

/-!
What can be wrong with a JSON text, and where. A place is a number of code points from the start;
its line counts the line feeds before it.
-/
namespace ExposureLint.Json

inductive Reason
  | value
  | name
  | colon
  | comma
  | unterminated
  | controlCharacter
  | escape
  | hexEscape
  | extraData
  | byteOrderMark
deriving DecidableEq

def Reason.message : Reason → Text
  | .value => "Expecting value"
  | .name => "Expecting property name enclosed in double quotes"
  | .colon => "Expecting ':' delimiter"
  | .comma => "Expecting ',' delimiter"
  | .unterminated => "Unterminated string starting at"
  | .controlCharacter => "Invalid control character at"
  | .escape => "Invalid \\escape"
  | .hexEscape => "Invalid \\uXXXX escape"
  | .extraData => "Extra data"
  | .byteOrderMark => "Unexpected UTF-8 BOM (decode using utf-8-sig)"

/-- A text that is not well formed from position `pos` on, an integer with too many digits, or
containers that go deeper than the stack reaches. -/
inductive Fault
  | malformed (reason : Reason) (pos : Nat)
  | number (fault : Numeral.Fault)
  | tooDeep
deriving DecidableEq

/-- The line of a position and the column in it, both counted from one. -/
def lineColumn (whole : Text) (pos : Nat) : Nat × Nat :=
  let before := Text.lines (whole.take pos)
  (before.length, (before.getLast?.getD []).length + 1)

def Fault.message (whole : Text) : Fault → Text
  | .malformed reason pos =>
    let (line, column) := lineColumn whole pos
    reason.message ++ ": line " ++ Text.ofNat line ++ " column " ++ Text.ofNat column ++ " (char "
      ++ Text.ofNat pos ++ ")"
  | .number fault => fault.message
  | .tooDeep => Host.stackMessage

end ExposureLint.Json
