/-!
Text as a list of code points. A code point may be a surrogate, since an escape sequence of a
document can spell one on its own; such a text has no UTF-8 form, and `isWellFormed` tells it apart.
-/
namespace ExposureLint

/-- A number that an escape sequence may name: every scalar value and every surrogate. -/
structure CodePoint where
  val : Nat
  isLt : val < 0x110000
deriving DecidableEq

namespace CodePoint

def ofNat? (n : Nat) : Option CodePoint :=
  if h : n < 0x110000 then some ⟨n, h⟩ else none

theorem toNat_lt (c : Char) : c.toNat < 0x110000 := by
  have valid := c.valid
  show c.val.toNat < _
  rcases valid with low | ⟨_, high⟩
  · exact Nat.lt_of_lt_of_le low (by decide)
  · exact high

def ofChar (c : Char) : CodePoint := ⟨c.toNat, toNat_lt c⟩

instance : Coe Char CodePoint := ⟨ofChar⟩
instance : Inhabited CodePoint := ⟨'\x00'⟩

/-- The end mark of a text under reading; it is also what `peek` answers past the end. -/
def nul : CodePoint := '\x00'

def isSurrogate (c : CodePoint) : Bool := 0xD800 ≤ c.val && c.val < 0xE000
def isHighSurrogate (c : CodePoint) : Bool := 0xD800 ≤ c.val && c.val < 0xDC00

def toChar (c : CodePoint) : Char := if c.isSurrogate then '\ufffd' else Char.ofNat c.val

/-- Membership in a list of characters that is written as a string. -/
@[inline] def isIn (c : CodePoint) (among : String) : Bool := among.toList.any (c == ·)

def isAsciiDigit (c : CodePoint) : Bool := 0x30 ≤ c.val && c.val ≤ 0x39
def isAsciiUpper (c : CodePoint) : Bool := 0x41 ≤ c.val && c.val ≤ 0x5A
def isAsciiLower (c : CodePoint) : Bool := 0x61 ≤ c.val && c.val ≤ 0x7A

def hexValue? (c : CodePoint) : Option Nat :=
  if c.isAsciiDigit then some (c.val - 0x30)
  else if 0x41 ≤ c.val && c.val ≤ 0x46 then some (c.val - 0x37)
  else if 0x61 ≤ c.val && c.val ≤ 0x66 then some (c.val - 0x57)
  else none

end CodePoint

abbrev Text := List CodePoint

namespace Text

def ofString (s : String) : Text := s.toList.map CodePoint.ofChar

instance : Coe String Text := ⟨ofString⟩

/-- For display only: a surrogate becomes the replacement character. -/
def toDisplay (t : Text) : String := String.ofList (t.map CodePoint.toChar)

/-- A text without surrogates; only such a text has a UTF-8 form. -/
def isWellFormed (t : Text) : Bool := t.all fun c => !c.isSurrogate

def ofNat (n : Nat) : Text := ofString (toString n)

def ofInt : Int → Text
  | .ofNat n => ofNat n
  | .negSucc n => "-" ++ ofNat (n + 1)

def padZero (width : Nat) (t : Text) : Text :=
  List.replicate (width - t.length) (CodePoint.ofChar '0') ++ t

/-- Hexadecimal digits in lower case, at least `width` of them. -/
def ofNatHex (width n : Nat) : Text :=
  padZero width ((Nat.toDigits 16 n).map CodePoint.ofChar)

def startsWith (t start : Text) : Bool := start.isPrefixOf t
def endsWith (t tail : Text) : Bool := tail.isSuffixOf t

def join (separator : Text) (parts : List Text) : Text := List.intercalate separator parts

/-- The pieces between the code points that satisfy `p`; one more piece than there are such. -/
def pieces (p : CodePoint → Bool) : Text → List Text
  | [] => [[]]
  | c :: rest =>
    if p c then [] :: pieces p rest
    else match pieces p rest with
      | [] => [[c]]
      | piece :: pieces => (c :: piece) :: pieces

/-- The lines of a text; a final line feed leaves an empty last line. -/
def lines (t : Text) : List Text := t.pieces (· == '\n')

def substitute (old : CodePoint) (new : Text) (t : Text) : Text :=
  t.flatMap fun c => if c == old then new else [c]

def dropEndWhile (p : CodePoint → Bool) (t : Text) : Text :=
  (t.reverse.dropWhile p).reverse

/-- Code point order, a shorter text before its extensions. -/
def le : Text → Text → Bool
  | [], _ => true
  | _ :: _, [] => false
  | a :: s, b :: t => if a.val < b.val then true else if b.val < a.val then false else le s t

/-- Line ends as one line feed each: a carriage return, with or without a line feed after it,
counts as one line end. -/
def normalizeLineEnds : Text → Text
  | [] => []
  | c :: rest =>
    if c == '\r' then
      match rest with
      | [] => ['\n']
      | d :: more => if d == '\n' then '\n' :: normalizeLineEnds more
                     else '\n' :: normalizeLineEnds (d :: more)
    else c :: normalizeLineEnds rest

/-- The letters of the Latin alphabet without accents in upper case, all else as it is. -/
def upperAscii (t : Text) : Text :=
  t.map fun c => if c.isAsciiLower then Char.ofNat (c.val - 0x20) else c

/-- The letters of the Latin alphabet without accents in lower case, all else as it is. -/
def lowerAscii (t : Text) : Text :=
  t.map fun c => if c.isAsciiUpper then Char.ofNat (c.val + 0x20) else c

end Text
end ExposureLint
