import ExposureLint.Text.Basic

/-!
UTF-8, read strictly. A fault names the bytes that cannot be read and why: a byte that starts no
character, a byte that does not continue the one before it, or an end inside a character. `encode`
writes a surrogate in the three bytes its number would have, so it is total and injective.
-/
namespace ExposureLint.Utf8

inductive Reason
  | startByte
  | continuationByte
  | endOfData
deriving DecidableEq

/-- The bytes from position `first` up to, and without, position `stop` cannot be read. -/
structure Fault where
  byte : UInt8
  first : Nat
  stop : Nat
  reason : Reason
deriving DecidableEq

def Reason.message : Reason → Text
  | .startByte => "invalid start byte"
  | .continuationByte => "invalid continuation byte"
  | .endOfData => "unexpected end of data"

def Fault.message (f : Fault) : Text :=
  "'utf-8' codec can't decode " ++
    (if f.stop == f.first + 1 then
      "byte 0x" ++ Text.ofNatHex 2 f.byte.toNat ++ " in position " ++ Text.ofNat f.first
    else
      "bytes in position " ++ Text.ofNat f.first ++ "-" ++ Text.ofNat (f.stop - 1))
    ++ ": " ++ f.reason.message

def isContinuation (b : UInt8) : Bool := 0x80 ≤ b.toNat && b.toNat < 0xC0

/-- The second byte of a character is limited further after four of the first bytes. -/
def secondOk (b0 b1 : UInt8) : Bool :=
  isContinuation b1 &&
    (if b0 == 0xE0 then 0xA0 ≤ b1.toNat
     else if b0 == 0xED then b1.toNat < 0xA0
     else if b0 == 0xF0 then 0x90 ≤ b1.toNat
     else if b0 == 0xF4 then b1.toNat < 0x90
     else true)

def tailBits (b : UInt8) : Nat := b.toNat % 64

/-- What the bytes at hand begin with: one character and the number of its bytes, or a fault that
spans `wide` bytes, or that reaches to the end. -/
inductive Head
  | char (c : CodePoint) (size : Nat)
  | bad (wide : Nat) (reason : Reason)
  | cut

def head (b0 : UInt8) (rest : List UInt8) : Head :=
  let made (n size : Nat) : Head := match CodePoint.ofNat? n with
    | some c => .char c size
    | none => .bad 1 .startByte
  let n0 := b0.toNat
  if n0 < 0x80 then made n0 1
  else if n0 < 0xC2 then .bad 1 .startByte
  else if n0 < 0xE0 then
    match rest with
    | [] => .cut
    | b1 :: _ =>
      if isContinuation b1 then made ((n0 - 0xC0) * 64 + tailBits b1) 2
      else .bad 1 .continuationByte
  else if n0 < 0xF0 then
    match rest with
    | [] => .cut
    | b1 :: more =>
      if !secondOk b0 b1 then .bad 1 .continuationByte
      else match more with
        | [] => .cut
        | b2 :: _ =>
          if isContinuation b2 then
            made (((n0 - 0xE0) * 64 + tailBits b1) * 64 + tailBits b2) 3
          else .bad 2 .continuationByte
  else if n0 < 0xF5 then
    match rest with
    | [] => .cut
    | b1 :: more =>
      if !secondOk b0 b1 then .bad 1 .continuationByte
      else match more with
        | [] => .cut
        | b2 :: more =>
          if !isContinuation b2 then .bad 2 .continuationByte
          else match more with
            | [] => .cut
            | b3 :: _ =>
              if isContinuation b3 then
                made ((((n0 - 0xF0) * 64 + tailBits b1) * 64 + tailBits b2) * 64 + tailBits b3) 4
              else .bad 3 .continuationByte
  else .bad 1 .startByte

/-- Reads the bytes after `skip` more of them, where `pos` is the position of the first. -/
def decodeFrom (pos skip : Nat) : List UInt8 → Except Fault Text
  | [] => .ok []
  | b :: rest =>
    match skip with
    | skip + 1 => decodeFrom (pos + 1) skip rest
    | 0 =>
      match head b rest with
      | .char c size => (c :: ·) <$> decodeFrom (pos + 1) (size - 1) rest
      | .bad wide reason => .error ⟨b, pos, pos + wide, reason⟩
      | .cut => .error ⟨b, pos, pos + 1 + rest.length, .endOfData⟩

def decode (bytes : List UInt8) : Except Fault Text := decodeFrom 0 0 bytes

def encodeOne (c : CodePoint) : List UInt8 :=
  let n := c.val
  let tail (k : Nat) : UInt8 := (0x80 + k % 64).toUInt8
  if n < 0x80 then [n.toUInt8]
  else if n < 0x800 then [(0xC0 + n / 64).toUInt8, tail n]
  else if n < 0x10000 then [(0xE0 + n / 4096).toUInt8, tail (n / 64), tail n]
  else [(0xF0 + n / 262144).toUInt8, tail (n / 4096), tail (n / 64), tail n]

def encode (t : Text) : List UInt8 := t.flatMap encodeOne

/-- A row of lone surrogates from position `first` up to, and without, position `stop`; it begins
with `char`, and has no form in bytes. -/
structure Unwritable where
  char : CodePoint
  first : Nat
  stop : Nat
deriving DecidableEq

def Unwritable.message (f : Unwritable) : Text :=
  "'utf-8' codec can't encode " ++
    (if f.stop == f.first + 1 then
      "character '\\u" ++ Text.ofNatHex 4 f.char.val ++ "' in position " ++ Text.ofNat f.first
    else
      "characters in position " ++ Text.ofNat f.first ++ "-" ++ Text.ofNat (f.stop - 1))
    ++ ": surrogates not allowed"

/-- The first of a text's surrogates that is not exempt, with the surrogates right behind it. -/
def unwritableBut? (exempt : CodePoint → Bool) (t : Text) : Option Unwritable :=
  let first := (t.takeWhile fun c => !c.isSurrogate || exempt c).length
  match t.drop first with
  | [] => none
  | c :: rest => some ⟨c, first, first + 1 + (rest.takeWhile CodePoint.isSurrogate).length⟩

def unwritable? (t : Text) : Option Unwritable := unwritableBut? (fun _ => false) t

/-- The text with an escape sequence in place of each code point that has no form in bytes. -/
def escaped (t : Text) : Text :=
  t.flatMap fun c => if c.isSurrogate then "\\u" ++ Text.ofNatHex 4 c.val else [c]

end ExposureLint.Utf8
