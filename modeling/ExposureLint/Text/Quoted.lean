import ExposureLint.Text.Printable

/-!
The quoted form of a text, as it stands inside a message or inside the text of a list. The quote is
a single one, unless the text holds single quotes and no double ones. What is not printable is
written by its number, in two, four or eight hexadecimal digits.
-/
namespace ExposureLint

namespace CodePoint

def quotedIn (quote c : CodePoint) : Text :=
  if c == quote || c == '\\' then ['\\', c]
  else if c == '\t' then "\\t"
  else if c == '\n' then "\\n"
  else if c == '\r' then "\\r"
  else if c.isPrintable then [c]
  else if c.val < 0x100 then "\\x" ++ Text.ofNatHex 2 c.val
  else if c.val < 0x10000 then "\\u" ++ Text.ofNatHex 4 c.val
  else "\\U" ++ Text.ofNatHex 8 c.val

end CodePoint

namespace Text

def quoteOf (t : Text) : CodePoint :=
  if t.contains (CodePoint.ofChar '\x27') && !t.contains (CodePoint.ofChar '"') then '"' else '\x27'

def quoted (t : Text) : Text :=
  let quote := t.quoteOf
  quote :: t.flatMap (CodePoint.quotedIn quote) ++ [quote]

end Text

/-- The quoted form of bytes: the letter b, then quotes; a byte outside the printable characters of
ASCII is written by its number. -/
def quotedBytes (bytes : List UInt8) : Text :=
  let asText : Text := bytes.map fun b => CodePoint.ofChar (Char.ofNat b.toNat)
  let quote := asText.quoteOf
  let one (c : CodePoint) : Text :=
    if c == quote || c == '\\' then ['\\', c]
    else if c == '\t' then "\\t"
    else if c == '\n' then "\\n"
    else if c == '\r' then "\\r"
    else if 0x20 ≤ c.val && c.val < 0x7F then [c]
    else "\\x" ++ Text.ofNatHex 2 c.val
  "b" ++ [quote] ++ asText.flatMap one ++ [quote]

end ExposureLint
