import ExposureLint.Document.Value
import ExposureLint.Json.Error

/-!
Reading a JSON text. Beyond the standard, the words for not-a-number and the infinities are values,
and an escape may name a single surrogate. Of two members with one name the first gives the place
and the last the value. Containers that stand in each other take from the room that the reader has.
-/
namespace ExposureLint.Json

structure At where
  pos : Nat
  rest : Text

namespace At

def skip (n : Nat) (a : At) : At := ⟨a.pos + n, a.rest.drop n⟩

def isSpace (c : CodePoint) : Bool := c == ' ' || c == '\t' || c == '\n' || c == '\r'

def skipSpace (a : At) : At := a.skip (a.rest.takeWhile isSpace).length

def next (c : Char) (a : At) : Bool := a.rest.head? == some (CodePoint.ofChar c)

end At

def hex4? : Text → Option Nat
  | a :: b :: c :: d :: _ => do
    let a ← a.hexValue?
    let b ← b.hexValue?
    let c ← c.hexValue?
    let d ← d.hexValue?
    return ((a * 16 + b) * 16 + c) * 16 + d
  | _ => none

def shortEscapes : List (Char × Char) := [
  ('"', '"'), ('\\', '\\'), ('/', '/'), ('b', '\x08'), ('f', '\x0c'), ('n', '\n'), ('r', '\r'),
  ('t', '\t')]

def shortEscape? (c : CodePoint) : Option CodePoint :=
  (shortEscapes.find? fun e => c == e.1).map fun e => CodePoint.ofChar e.2

/-- The second half of a pair of surrogates that follows the first: another escape, after which the
text goes on. A pair half that fits none is left to be read again by itself. -/
def lowHalf? (pos : Nat) (t : Text) : Except Fault (Option Nat) :=
  match t with
  | b :: u :: digits =>
    if 6 < t.length && b == '\\' && u == 'u' then
      match hex4? digits with
      | some n => .ok (if 0xDC00 ≤ n && n < 0xE000 then some n else none)
      | none => .error (.malformed .hexEscape (pos + 1))
    else .ok none
  | _ => .ok none

/-- An escape whose backslash is at `pos`, from the code point after the backslash on; with the
number of code points that it takes. A hexadecimal escape must not end the text. -/
def escape (start pos : Nat) : Text → Except Fault (CodePoint × Nat)
  | [] => .error (.malformed .unterminated start)
  | c :: rest =>
    if c == 'u' then
      match if 4 < rest.length then hex4? rest else none with
      | none => .error (.malformed .hexEscape (pos + 1))
      | some n =>
        let single : CodePoint := (CodePoint.ofNat? n).getD default
        if single.isHighSurrogate then do
          match ← lowHalf? (pos + 6) (rest.drop 4) with
          | some low =>
            let joined := 0x10000 + (n - 0xD800) * 0x400 + (low - 0xDC00)
            return ((CodePoint.ofNat? joined).getD default, 11)
          | none => return (single, 5)
        else .ok (single, 5)
    else match shortEscape? c with
      | some d => .ok (d, 1)
      | none => .error (.malformed .escape pos)

def stringFrom (start : Nat) : Nat → At → Except Fault (Text × At)
  | 0, _ => .error (.malformed .unterminated start)
  | fuel + 1, ⟨pos, rest⟩ =>
    match rest with
    | [] => .error (.malformed .unterminated start)
    | c :: rest =>
      if c == '"' then .ok ([], ⟨pos + 1, rest⟩)
      else if c == '\\' then do
        let (d, taken) ← escape start pos rest
        let (t, a) ← stringFrom start fuel (At.skip taken ⟨pos + 1, rest⟩)
        return (d :: t, a)
      else if c.val < 0x20 then .error (.malformed .controlCharacter pos)
      else do
        let (t, a) ← stringFrom start fuel ⟨pos + 1, rest⟩
        return (c :: t, a)

def string (a : At) : Except Fault (Text × At) := stringFrom (a.pos - 1) (a.rest.length + 1) a

def words : List (String × Scalar) := [
  ("null", .null), ("true", .bool true), ("false", .bool false), ("NaN", .float (.nan 0)),
  ("Infinity", .float (.infinite false)), ("-Infinity", .float (.infinite true))]

def digitsAt (t : Text) : Nat := (t.takeWhile CodePoint.isAsciiDigit).length

/-- The length of the fraction that a text starts with, zero when there is none. -/
def fractionAt : Text → Nat
  | [] => 0
  | c :: rest => if c == '.' && 0 < digitsAt rest then digitsAt rest + 1 else 0

def exponentAt : Text → Nat
  | [] => 0
  | c :: rest =>
    if c == 'e' || c == 'E' then
      let signed := match rest with
        | s :: _ => if s == '+' || s == '-' then 1 else 0
        | [] => 0
      let digits := digitsAt (rest.drop signed)
      if digits == 0 then 0 else 1 + signed + digits
    else 0

/-- The length of a sign and the whole part after it; a zero in front is a whole part by itself. -/
def wholeAt (t : Text) : Nat :=
  let signed := if t.head? == some (CodePoint.ofChar '-') then 1 else 0
  match t.drop signed with
  | [] => 0
  | c :: rest =>
    if c == '0' then signed + 1
    else if c.isAsciiDigit then signed + 1 + digitsAt rest
    else 0

/-- A number: an integer, unless it has a fraction or an exponent. -/
def number (a : At) : Except Fault (Value × At) :=
  let whole := wholeAt a.rest
  if whole == 0 then .error (.malformed .value a.pos)
  else
    let fraction := fractionAt (a.rest.drop whole)
    let exponent := exponentAt (a.rest.drop (whole + fraction))
    let size := whole + fraction + exponent
    let written := a.rest.take size
    let scalar := if fraction == 0 && exponent == 0
      then Scalar.int <$> Numeral.readInt 10 written
      else Scalar.float <$> Numeral.readDecimal written
    match scalar with
    | .ok s => .ok (.scalar s, a.skip size)
    | .error fault => .error (.number fault)

mutual

/-- One value. Each use of fuel but every second takes a code point, so twice the length of the text
is enough; `room` is for the containers that are still to be opened. -/
def value : Nat → Nat → At → Except Fault (Value × At)
  | 0, _, a => .error (.malformed .value a.pos)
  | fuel + 1, room, a =>
    if a.next '"' then do
      let (t, a) ← string (a.skip 1)
      return (.text t, a)
    else if a.next '[' then
      match room with
      | 0 => .error .tooDeep
      | room + 1 =>
        let a := (a.skip 1).skipSpace
        if a.next ']' then .ok (.list [], a.skip 1)
        else do
          let (items, a) ← items fuel room a
          return (.list items, a)
    else if a.next '\x7b' then
      match room with
      | 0 => .error .tooDeep
      | room + 1 =>
        let a := (a.skip 1).skipSpace
        if a.next '\x7d' then .ok (.map [], a.skip 1)
        else do
          let (entries, a) ← members fuel room a
          return (.map (Value.ofEntries entries), a)
    else match words.find? fun w => a.rest.startsWith (Text.ofString w.1) with
      | some w => .ok (.scalar w.2, a.skip w.1.length)
      | none => number a

/-- The items of a list up to the closing bracket, at least one. -/
def items : Nat → Nat → At → Except Fault (List Value × At)
  | 0, _, a => .error (.malformed .value a.pos)
  | fuel + 1, room, a => do
    let (first, a) ← value fuel room a
    let a := a.skipSpace
    if a.next ']' then return ([first], a.skip 1)
    else if a.next ',' then
      let (more, a) ← items fuel room (a.skip 1).skipSpace
      return (first :: more, a)
    else throw (.malformed .comma a.pos)

def members : Nat → Nat → At → Except Fault (List (Scalar × Value) × At)
  | 0, _, a => .error (.malformed .name a.pos)
  | fuel + 1, room, a =>
    if a.next '"' then do
      let (name, a) ← string (a.skip 1)
      let a := a.skipSpace
      if a.next ':' then
        let (first, a) ← value fuel room (a.skip 1).skipSpace
        let a := a.skipSpace
        if a.next '\x7d' then return ([(.text name, first)], a.skip 1)
        else if a.next ',' then
          let (more, a) ← members fuel room (a.skip 1).skipSpace
          return ((.text name, first) :: more, a)
        else throw (.malformed .comma a.pos)
      else throw (.malformed .colon a.pos)
    else .error (.malformed .name a.pos)

end

def readWithin (room : Nat) (t : Text) : Except Fault Value := do
  if t.head? == some (CodePoint.ofChar '\ufeff') then throw (.malformed .byteOrderMark 0)
  let (v, a) ← value (2 * t.length + 2) room (At.skipSpace ⟨0, t⟩)
  let a := a.skipSpace
  if a.rest.isEmpty then return v else throw (.malformed .extraData a.pos)

/-- The value of a whole text, read with as much room as it has code points. -/
def read (t : Text) : Except Fault Value := readWithin t.length t

end ExposureLint.Json
