import ExposureLint.Expression.Cause

/-!
Escapes in quoted texts and bytes. Faults are told with positions in a form of the text in ASCII,
where what is not ASCII is itself an escape of ten characters, and a backslash in front of it one of
six.
-/
namespace ExposureLint.Expression

def isAscii (c : CodePoint) : Bool := c.val < 0x80

def asciiLength : Text → Nat
  | [] => 0
  | c :: rest =>
    if !isAscii c then 10 + asciiLength rest
    else if !(c == '\\') then 1 + asciiLength rest
    else match rest with
      | [] => 6
      | d :: more => if isAscii d then 2 + asciiLength more else 6 + asciiLength (d :: more)

def escapeWidth? (mark : CodePoint) : Option Nat :=
  if mark == 'x' then some 2 else if mark == 'u' then some 4 else if mark == 'U' then some 8
  else none

def hexNumber (digits : Text) : Nat := digits.foldl (fun n c => n * 16 + c.hexValue?.getD 0) 0

def numberFault? (pos : Nat) (mark : CodePoint) (width : Nat) (behind : Text) : Option Cause :=
  let digits := (behind.take width).takeWhile (·.hexValue?.isSome)
  let stop := pos + 2 + digits.length
  if digits.length < width then some (.escape pos stop (.short mark width))
  else if 0x110000 ≤ hexNumber digits then some (.escape pos stop .tooLarge)
  else none

def nameFault? (isName : Text → Bool) (pos : Nat) (behind : Text) : Option Cause :=
  match behind with
  | brace :: inside =>
    if !(brace == '\x7b') then some (.escape pos (pos + 2) .unnamed)
    else
      let name : Text := inside.takeWhile fun (c : CodePoint) => !(c == '\x7d')
      let behindName := inside.drop name.length
      let stop := pos + 3 + (asciiLength inside - asciiLength behindName)
      if name.isEmpty || behindName.isEmpty then some (.escape pos stop .unnamed)
      else if isName name then none
      else some (.escape pos (stop + 1) .unknownName)
  | [] => some (.escape pos (pos + 2) .unnamed)

/-- Checks the escapes of a text whose start has a position in the form in ASCII. A backslash in
front of any other character stands for itself. -/
def checkEscapes (isName : Text → Bool) (pos : Nat) : Text → Except Cause Unit
  | [] => .ok ()
  | c :: rest =>
    if !isAscii c then checkEscapes isName (pos + 10) rest
    else if !(c == '\\') then checkEscapes isName (pos + 1) rest
    else match rest with
      | [] => .ok ()
      | d :: more =>
        if !isAscii d then checkEscapes isName (pos + 6) (d :: more)
        else
          let fault := match escapeWidth? d with
            | some width => numberFault? pos d width more
            | none => if d == 'N' then nameFault? isName pos more else none
          match fault with
          | some cause => .error cause
          | none => checkEscapes isName (pos + 2) more

/-- Checks the escapes of bytes: two digits must stand behind the mark of a number. -/
def checkByteEscapes (pos : Nat) : Text → Except Cause Unit
  | [] => .ok ()
  | c :: rest =>
    if !(c == '\\') then checkByteEscapes (pos + 1) rest
    else match rest with
      | [] => .ok ()
      | d :: more =>
        let digits := (more.take 2).takeWhile (·.hexValue?.isSome)
        if d == 'x' && digits.length < 2 then .error (.byteEscape (pos + digits.length))
        else checkByteEscapes (pos + 2) more

end ExposureLint.Expression
