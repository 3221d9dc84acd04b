import ExposureLint.Document.Scalar
import ExposureLint.Text.Lower
import ExposureLint.Yaml.Error
import ExposureLint.Yaml.Tag

/-!
The scalars that the standard tags make of a text. Underscores in numbers do not count, and numbers
may be written to base sixty with colons between the parts.
-/
namespace ExposureLint.Yaml

/-- The words for truth values, in lower case. -/
def boolWords : List (String × Bool) := [
  ("yes", true), ("no", false), ("true", true), ("false", false), ("on", true), ("off", false)]

def readBool (written : Text) : Except ScalarFault Bool :=
  let word := written.lower
  match boolWords.find? fun e => word == Text.ofString e.1 with
  | some (_, b) => .ok b
  | none => .error (.notBool word)

def withoutUnderscores (written : Text) : Text := written.filter fun c => c != '_'

def readDigits (base : Nat) (written : Text) : Except ScalarFault Int :=
  (Numeral.readInt base written).mapError .numeral

/-- The parts of a number to base sixty. -/
def parts (written : Text) : List Text := written.pieces fun c => c == ':'

/-- An integer without its sign. A zero in front means base eight, unless a letter says otherwise.
-/
def readMagnitude (written : Text) : Except ScalarFault Int :=
  if written == Text.ofString "0" then .ok 0
  else if written.startsWith "0b" then readDigits 2 (written.drop 2)
  else if written.startsWith "0x" then readDigits 16 (written.drop 2)
  else match written with
    | [] => .error .noDigits
    | c :: _ =>
      if c == '0' then readDigits 8 written
      else if written.contains (CodePoint.ofChar ':') then do
        let digits ← (parts written).mapM (readDigits 10)
        return digits.foldl (fun n d => n * 60 + d) 0
      else readDigits 10 written

def readInt (written : Text) : Except ScalarFault Int :=
  match withoutUnderscores written with
  | [] => .error .noDigits
  | digits => do
    let (negative, body) := Numeral.sign digits
    let n ← readMagnitude body
    return if negative then -n else n

def readDecimal (written : Text) : Except ScalarFault Binary64 :=
  (Numeral.readDecimal written).mapError .numeral

/-- The sum of digits to base sixty, the last digit first. A factor beyond every number fails. -/
def sumSixtieth (sum : Binary64) (factor : Nat) : List Binary64 → Except ScalarFault Binary64
  | [] => .ok sum
  | d :: rest =>
    match Binary64.ofInt factor with
    | .infinite _ => .error .hugeFactor
    | _ => sumSixtieth (sum.add (d.mulInt factor)) (factor * 60) rest

/-- Of what is not a number, the one with a word of its own is the same everywhere; any other one is
told apart by `own`, which must not be zero. -/
def readFloat (own : Nat) (written : Text) : Except ScalarFault Binary64 :=
  match Text.lower (withoutUnderscores written) with
  | [] => .error .noDigits
  | digits =>
    let (negative, body) := Numeral.sign digits
    let signed (x : Binary64) : Binary64 := (if negative then x.neg else x).withMark own
    if body == Text.ofString ".inf" then .ok (.infinite negative)
    else if body == Text.ofString ".nan" then .ok (.nan 0)
    else if body.contains (CodePoint.ofChar ':') then do
      let digits ← (parts body).mapM readDecimal
      let x ← sumSixtieth (.zero false) 1 digits.reverse
      return signed x
    else do
      let x ← readDecimal body
      return signed x

def leadingNumber (t : Text) : Nat × Text :=
  let (digits, rest) := Numeral.digitRun t
  (Numeral.ofDigits digits, rest)

/-- The microseconds of a fraction, which may have any number of digits. -/
def micros (t : Text) : Nat × Text :=
  let (digits, rest) := Numeral.digitRun t
  (Numeral.ofDigits (digits ++ List.replicate 6 0 |>.take 6), rest)

def offset (t : Text) : Option Int :=
  match t.dropWhile isTabOrSpace with
  | [] => none
  | c :: rest =>
    if c == '+' || c == '-' then
      let (hours, rest) := leadingNumber rest
      let (minutes, _) := leadingNumber (rest.drop 1)
      let total : Int := hours * 60 + minutes
      some (if c == '-' then -total else total)
    else if c == 'Z' then some 0
    else none

def readDateTime (t : Text) : Except Calendar.Fault Scalar :=
  let (year, t) := leadingNumber t
  let (month, t) := leadingNumber (t.drop 1)
  let (day, t) := leadingNumber (t.drop 1)
  let t := t.dropWhile fun c => c.isIn "Tt \t\n"
  if t.isEmpty then Scalar.date <$> Date.make year month day
  else
    let (hour, t) := leadingNumber t
    let (minute, t) := leadingNumber (t.drop 1)
    let (second, t) := leadingNumber (t.drop 1)
    let (micro, t) :=
      if t.head? == some (CodePoint.ofChar '.') then micros (t.drop 1) else (0, t)
    Scalar.moment <$> Moment.make year month day hour minute second micro (offset t)

def readTimestamp (written : Text) : Except ScalarFault Scalar :=
  if Form.looseTimestamp.acceptsLine written then (readDateTime written).mapError .calendar
  else .error .notTimestamp

end ExposureLint.Yaml
