import ExposureLint.Number.Binary64
import ExposureLint.Text.Class
import ExposureLint.Text.Quoted

/-!
Reading the written forms of numbers. White space around a numeral does not count, nor which script
its digits are from. An integer in base two, eight or sixteen may carry the mark of its base, as in
`0x1f`. An integer in base ten has a limit on its digits, and so has the text of any integer.
-/
namespace ExposureLint

namespace Numeral

/-- The most digits that an integer may have where it is read or written in base ten. -/
def digitLimit : Nat := 4300

inductive Fault
  | notInteger (base : Nat) (written : Text)
  | notDecimal (written : Text)
  | tooManyDigits (count : Nat)
  | unwritable
deriving DecidableEq

def limitAdvice : Text := "use sys.set_int_max_str_digits() to increase the limit"

def limitMessage : Text :=
  "Exceeds the limit (" ++ Text.ofNat digitLimit ++ " digits) for integer string conversion"

def Fault.message : Fault → Text
  | .notInteger base written =>
    "invalid literal for int() with base " ++ Text.ofNat base ++ ": " ++ written.quoted.take 200
  | .notDecimal written => "could not convert string to float: " ++ written.quoted
  | .tooManyDigits count =>
    limitMessage ++ ": value has " ++ Text.ofNat count ++ " digits; " ++ limitAdvice
  | .unwritable => limitMessage ++ "; " ++ limitAdvice

/-- White space around a numeral; the separators of information are not among it. -/
def isPadding (c : CodePoint) : Bool := c.isBlank && !(0x1C ≤ c.val && c.val ≤ 0x1F)

def unpadded (t : Text) : Text := Text.dropEndWhile isPadding (t.dropWhile isPadding)

/-- The value of a digit, where the letters follow the decimal digits of any script. -/
def digit? (base : Nat) (c : CodePoint) : Option Nat :=
  ((c.digitValue?).or c.hexValue?).filter (· < base)

def value? (base : Nat) : Nat → Text → Option Nat
  | n, [] => some n
  | n, c :: rest => do value? base (n * base + (← digit? base c)) rest

/-- A sign in front, where `true` is for minus. -/
def sign : Text → Bool × Text
  | [] => (false, [])
  | c :: rest =>
    if c == '-' then (true, rest) else if c == '+' then (false, rest) else (false, c :: rest)

/-- The letter that marks a base behind a zero. -/
def baseMark : Nat → String
  | 2 => "bB"
  | 8 => "oO"
  | 16 => "xX"
  | _ => ""

def withoutMark (base : Nat) : Text → Text
  | z :: m :: rest => if z == '0' && m.isIn (baseMark base) then rest else z :: m :: rest
  | t => t

/-- Too many digits are refused before what follows them is looked at. -/
def readInt (base : Nat) (written : Text) : Except Fault Int :=
  let (negative, body) := sign (unpadded written)
  let digits := withoutMark base body
  let count := (digits.takeWhile fun c => (digit? base c).isSome).length
  if base == 10 && digitLimit < count then .error (.tooManyDigits count)
  else match digits with
    | [] => .error (.notInteger base written)
    | _ :: _ =>
      match value? base 0 digits with
      | some n => .ok (if negative then -(n : Int) else n)
      | none => .error (.notInteger base written)

def ofInt? (i : Int) : Except Fault Text :=
  if tenTo digitLimit ≤ i.natAbs then .error .unwritable else .ok (Text.ofInt i)

def digitRun (t : Text) : List Nat × Text :=
  (t.takeWhile (·.digitValue?.isSome) |>.filterMap (·.digitValue?),
    t.dropWhile (·.digitValue?.isSome))

def ofDigits (digits : List Nat) : Nat := digits.foldl (fun n d => n * 10 + d) 0

/-- The exponent at the end of a decimal, zero when there is none. -/
def exponent? : Text → Option Int
  | [] => some 0
  | e :: rest =>
    if e == 'e' || e == 'E' then
      let (negative, body) := sign rest
      match digitRun body with
      | ([], _) => none
      | (digits, []) => some (if negative then -(ofDigits digits : Int) else ofDigits digits)
      | (_, _ :: _) => none
    else none

/-- Digits, a point and more digits, of which one part may be missing, and an exponent. -/
def unsignedDecimal? (negative : Bool) (body : Text) : Option Binary64 :=
  let (whole, rest) := digitRun body
  let (fraction, rest) := match rest with
    | [] => ([], [])
    | c :: more => if c == '.' then digitRun more else ([], c :: more)
  if whole.isEmpty && fraction.isEmpty then none
  else (exponent? rest).map fun e =>
    Binary64.ofDecimal negative (ofDigits (whole ++ fraction)) (e - fraction.length)

/-- The number a decimal names; words stand for infinity and not-a-number. -/
def readDecimal (written : Text) : Except Fault Binary64 :=
  let (negative, body) := sign (unpadded written)
  let word := body.lowerAscii
  if word == Text.ofString "inf" || word == Text.ofString "infinity" then .ok (.infinite negative)
  else if word == Text.ofString "nan" then .ok (.nan 0)
  else match unsignedDecimal? negative body with
    | some x => .ok x
    | none => .error (.notDecimal written)

end Numeral
end ExposureLint
