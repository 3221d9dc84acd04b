import ExposureLint.Text.Basic

/-!
Base 64. Four letters of the alphabet carry three bytes; every other character is passed over.
Padding ends the text once it completes a group of four, and padding that comes too early is passed
over as well.
-/
namespace ExposureLint.Base64

inductive Fault
  | notAscii (first : Nat) (run : Text)
  | padding
  | oneExtra (letters : Nat)
deriving DecidableEq

def letter? (c : CodePoint) : Option Nat :=
  if c.isAsciiUpper then some (c.val - 0x41)
  else if c.isAsciiLower then some (c.val - 0x61 + 26)
  else if c.isAsciiDigit then some (c.val - 0x30 + 52)
  else if c == '+' then some 62
  else if c == '/' then some 63
  else none

/-- `inGroup` letters of the group at hand have been read, with the bits `carry` left of the last of
them, and `pads` marks of padding since; `out` holds the bytes, the last first. -/
def decodeFrom (inGroup carry pads : Nat) (out : List UInt8) : Text → Except Fault (List UInt8)
  | [] =>
    if inGroup == 0 then .ok out.reverse
    else if inGroup == 1 then .error (.oneExtra (out.length / 3 * 4 + 1))
    else .error .padding
  | c :: rest =>
    if c == '=' then
      if inGroup < 2 then decodeFrom inGroup carry pads out rest
      else if 4 ≤ inGroup + pads + 1 then .ok out.reverse
      else decodeFrom inGroup carry (pads + 1) out rest
    else match letter? c with
      | none => decodeFrom inGroup carry pads out rest
      | some v =>
        match inGroup with
        | 0 => decodeFrom 1 v 0 out rest
        | 1 => decodeFrom 2 (v % 16) 0 ((carry * 4 + v / 16).toUInt8 :: out) rest
        | 2 => decodeFrom 3 (v % 4) 0 ((carry * 16 + v / 4).toUInt8 :: out) rest
        | _ => decodeFrom 0 0 0 ((carry * 64 + v).toUInt8 :: out) rest

def isAscii (c : CodePoint) : Bool := c.val < 0x80

/-- A text outside ASCII is refused before anything else. -/
def decode (t : Text) : Except Fault (List UInt8) :=
  match t.dropWhile isAscii with
  | [] => decodeFrom 0 0 0 [] t
  | rest => .error (.notAscii (t.takeWhile isAscii).length (rest.takeWhile fun c => !isAscii c))

/-- A code point by its number, in two, four or eight digits. -/
def escaped (c : CodePoint) : Text :=
  if c.val < 0x100 then "\\x" ++ Text.ofNatHex 2 c.val
  else if c.val < 0x10000 then "\\u" ++ Text.ofNatHex 4 c.val
  else "\\U" ++ Text.ofNatHex 8 c.val

def Fault.message : Fault → Text
  | .notAscii first run =>
    let place := match run with
      | [c] => "character '" ++ escaped c ++ "' in position " ++ Text.ofNat first
      | _ => "characters in position " ++ Text.ofNat first ++ "-"
          ++ Text.ofNat (first + run.length - 1)
    "failed to convert base64 data into ascii: 'ascii' codec can't encode " ++ place
      ++ ": ordinal not in range(128)"
  | .padding => "failed to decode base64 data: Incorrect padding"
  | .oneExtra letters =>
    "failed to decode base64 data: Invalid base64-encoded string: number of data characters ("
      ++ Text.ofNat letters ++ ") cannot be 1 more than a multiple of 4"

end ExposureLint.Base64
