import ExposureLint.Expression.Cause
import ExposureLint.Text.Word

/-!
Numbers at the start of a text. Digits may be parted by single low lines, a mark behind a zero tells
the base, and a decimal may have a fraction, an exponent and the unit of imaginary numbers. A letter
right behind a number is a fault, unless one of a few words begins there.
-/
namespace ExposureLint.Expression

/-- What names consist of, as far as the end of a number is concerned: all that is not ASCII may be
a letter. -/
def isLetterOrDigit (c : CodePoint) : Bool :=
  c.isAsciiLetter || c.isAsciiDigit || c == '_' || 0x80 ≤ c.val

def joiningWords : List String := ["and", "else", "for", "or", "not"]

/-- The words of two letters that may do so, whatever follows them. -/
def shortJoiningWords : List String := ["if", "in", "is"]

def startsJoined (t : Text) : Bool :=
  joiningWords.any (fun w => t.takeWhile isLetterOrDigit == Text.ofString w)
    || shortJoiningWords.any (fun w => Text.startsWith t w)

/-- A number ends where nothing stands that could be a part of it. -/
def checkEnd (form : NumberForm) (t : Text) : Except Cause Unit :=
  if t.head?.any isLetterOrDigit && !startsJoined t then .error (.badNumber form) else .ok ()

/-- What is behind digits in decimal, each low line of which has digits on both sides. -/
def behindDigits : Text → Except Cause Text
  | [] => .ok []
  | c :: rest =>
    if c.isAsciiDigit then behindDigits rest
    else if c == '_' then
      match rest with
      | d :: more => if d.isAsciiDigit then behindDigits more else .error (.badNumber .decimal)
      | [] => .error (.badNumber .decimal)
    else .ok (c :: rest)

def behindZeros : Text → Except Cause Text
  | [] => .ok []
  | c :: rest =>
    if c == '0' then behindZeros rest
    else if c == '_' then
      match rest with
      | d :: more =>
        if d == '0' then behindZeros more
        else if d.isAsciiDigit then .ok (d :: more)
        else .error (.badNumber .decimal)
      | [] => .error (.badNumber .decimal)
    else .ok (c :: rest)

inductive Among
  | start
  | lowLine
  | digit
deriving DecidableEq

/-- What is behind the digits in a base other than ten. A digit that the base does not have is named
in the fault; for base sixteen there is none. -/
def behindBased (form : NumberForm) (isOwn : CodePoint → Bool) (place : Among) :
    Text → Except Cause Text
  | [] => if place == .digit then .ok [] else .error (.badNumber form)
  | c :: rest =>
    if isOwn c then behindBased form isOwn .digit rest
    else if c == '_' && place != .lowLine then behindBased form isOwn .lowLine rest
    else if c.isAsciiDigit then .error (.badDigit c form)
    else if place == .digit then .ok (c :: rest)
    else .error (.badNumber form)

def behindUnit (t : Text) : Except Cause Text := do
  match t with
  | j :: rest =>
    if j.isIn "jJ" then
      checkEnd .imaginary rest
      return rest
  | [] => pure ()
  checkEnd .decimal t
  return t

/-- An exponent, which must have digits behind a sign; a letter that has no digits behind it is not
one. -/
def behindExponent (t : Text) : Except Cause Text := do
  match t with
  | e :: rest =>
    if !e.isIn "eE" then behindUnit t
    else match rest with
      | [] => throw (.badNumber .decimal)
      | s :: more =>
        if s.isAsciiDigit then behindUnit (← behindDigits rest)
        else if s.isIn "+-" then
          if more.head?.any CodePoint.isAsciiDigit then behindUnit (← behindDigits more)
          else throw (.badNumber .decimal)
        else
          checkEnd .decimal t
          return t
  | [] => behindUnit t

def behindPoint (t : Text) : Except Cause Text := do
  behindExponent (← if t.head?.any CodePoint.isAsciiDigit then behindDigits t else .ok t)

/-- What is behind a number that begins with a zero, from right behind that zero. Zeros in front of
other digits are for fractions, exponents and imaginary numbers only. -/
def behindZero (t : Text) : Except Cause Text := do
  let zeros ← behindZeros t
  let leads := zeros.head?.any CodePoint.isAsciiDigit
  let rest ← behindDigits zeros
  match rest with
  | c :: more =>
    if c == '.' then behindPoint more
    else if c.isIn "eEjJ" then behindExponent rest
    else if leads then throw .leadingZeros
    else
      checkEnd .decimal rest
      return rest
  | [] => if leads then throw .leadingZeros else return []

def behindMark (form : NumberForm) (isOwn : CodePoint → Bool) (t : Text) : Except Cause Text := do
  let rest ← behindBased form isOwn .start t
  checkEnd form rest
  return rest

def behindNumber (first : CodePoint) (t : Text) : Except Cause Text := do
  if first == '0' then
    match t with
    | m :: rest =>
      if m.isIn "xX" then behindMark .hexadecimal (·.hexValue?.isSome) rest
      else if m.isIn "oO" then behindMark .octal (fun c => c.isAsciiDigit && c.val < 0x38) rest
      else if m.isIn "bB" then behindMark .binary (fun c => c == '0' || c == '1') rest
      else behindZero t
    | [] => return []
  else
    let rest ← behindDigits t
    match rest with
    | c :: more => if c == '.' then behindPoint more else behindExponent rest
    | [] => return []

/-- What a number as written is. The digits of an integer in base ten have a limit; zeros alone have
none. -/
def Number.ofText (t : Text) : Except Cause Number :=
  let digits : Text := t.filter fun c => !(c == '_')
  let isMarked := (digits.drop 1).head?.any fun c => c.isIn "xXoObB"
  if isMarked then .ok (.int (valueOf (markBase digits) (digits.drop 2)))
  else if digits.any fun c => c.isIn "jJ" then .ok .imaginary
  else if digits.any fun c => c.isIn ".eE" then .ok .float
  else if !Text.startsWith digits "0" && Numeral.digitLimit < digits.length then
    .error (.tooManyDigits digits.length)
  else .ok (.int (valueOf 10 digits))
where
  markBase (digits : Text) : Nat :=
    match digits with
    | _ :: m :: _ => if m.isIn "xX" then 16 else if m.isIn "oO" then 8 else 2
    | _ => 10
  valueOf (base : Nat) (digits : Text) : Nat :=
    digits.foldl (fun n c => n * base + c.hexValue?.getD 0) 0

end ExposureLint.Expression
