import ExposureLint.Number.Natural

/-!
Binary floating point numbers of 64 bits, as exact rationals. A finite number is `mant * 2 ^ exp`
with `mant < 2 ^ 53` and `exp` at least -1074, and `mant` at least `2 ^ 52` unless `exp` is -1074,
so every number has one form. Every operation rounds its exact result once, to the nearest, a tie to
the even `mant`. What is not a number has a mark, by which one is told apart from another; an
operation yields the one with mark zero.
-/
namespace ExposureLint

inductive Binary64
  | nan (mark : Nat)
  | infinite (negative : Bool)
  | finite (negative : Bool) (mant : Nat) (exp : Int)
deriving DecidableEq

namespace Binary64

def minExp : Int := -1074

def maxExp : Int := 971

def zero (negative : Bool) : Binary64 := .finite negative 0 minExp

/-- `num * 2 ^ (-e) / den` as a pair of natural numbers. -/
def scale (num den : Nat) (e : Int) : Nat × Nat :=
  if 0 ≤ e then (num, den * twoTo e.toNat) else (num * twoTo (-e).toNat, den)

/-- The number nearest to the quotient `num / den`. -/
def ofRatio (negative : Bool) (num den : Nat) : Binary64 :=
  if num == 0 || den == 0 then zero negative
  else
    let high : Int := (Nat.log2 num : Int) - (Nat.log2 den : Int) - 52
    let low := scale num den (high - 1)
    let exp := max (if low.1 < twoTo 53 * low.2 then high - 1 else high) minExp
    let scaled := scale num den exp
    let mant := roundDiv scaled.1 scaled.2
    let (mant, exp) := if mant == twoTo 53 then (twoTo 52, exp + 1) else (mant, exp)
    if maxExp < exp then .infinite negative else .finite negative mant exp

def ofInt (i : Int) : Binary64 := ofRatio (i < 0) i.natAbs 1

/-- The number nearest to `digits * 10 ^ exp10`; an exponent out of all proportion is not computed
with. -/
def ofDecimal (negative : Bool) (digits : Nat) (exp10 : Int) : Binary64 :=
  if digits == 0 then zero negative
  else if 400 < exp10 then .infinite negative
  else if (Nat.log2 digits : Int) / 3 + exp10 < -800 then zero negative
  else if 0 ≤ exp10 then ofRatio negative (digits * tenTo exp10.toNat) 1
  else ofRatio negative digits (tenTo (-exp10).toNat)

def neg : Binary64 → Binary64
  | .nan mark => .nan mark
  | .infinite s => .infinite (!s)
  | .finite s m e => .finite (!s) m e

/-- The number in multiples of `2 ^ -1074`, of which every finite number is one. -/
def units? : Binary64 → Option Int
  | .finite s m e =>
    let u : Int := m * twoTo (e - minExp).toNat
    some (if s then -u else u)
  | _ => none

def add (x y : Binary64) : Binary64 :=
  match x, y with
  | .nan _, _ | _, .nan _ => .nan 0
  | .infinite s, .infinite t => if s == t then .infinite s else .nan 0
  | .infinite s, _ => .infinite s
  | _, .infinite s => .infinite s
  | .finite s _ _, .finite t _ _ =>
    let u := x.units?.getD 0 + y.units?.getD 0
    if u == 0 then zero (s && t) else ofRatio (u < 0) u.natAbs (twoTo 1074)

/-- The product with an integer, which is first rounded itself. -/
def mulInt (x : Binary64) (k : Int) : Binary64 :=
  match x, ofInt k with
  | .nan _, _ | _, .nan _ => .nan 0
  | .infinite s, .infinite t => .infinite (s != t)
  | .infinite s, .finite t n _ => if n == 0 then .nan 0 else .infinite (s != t)
  | .finite s m _, .infinite t => if m == 0 then .nan 0 else .infinite (s != t)
  | .finite s m e, .finite t n f =>
    if 0 ≤ e + f then ofRatio (s != t) (m * n * twoTo (e + f).toNat) 1
    else ofRatio (s != t) (m * n) (twoTo (-(e + f)).toNat)

/-- The size of a finite number as a quotient of natural numbers. -/
def ratio? : Binary64 → Option (Nat × Nat)
  | .finite _ m e => some (if 0 ≤ e then (m * twoTo e.toNat, 1) else (m, twoTo (-e).toNat))
  | _ => none

def toInt? : Binary64 → Option Int
  | .finite s m e =>
    let made (n : Nat) : Option Int := some (if s then -(n : Int) else n)
    if 0 ≤ e then made (m * twoTo e.toNat)
    else
      let d := twoTo (-e).toNat
      if m % d == 0 then made (m / d) else none
  | _ => none

/-- Another mark for what is not a number; a number stays as it is. -/
def withMark (mark : Nat) : Binary64 → Binary64
  | .nan _ => .nan mark
  | x => x

/-- Equality of keys: the two zeros are the same, and what is not a number is the same as what has
its mark. -/
def sameKey (x y : Binary64) : Bool :=
  match x, y with
  | .finite _ 0 _, .finite _ 0 _ => true
  | _, _ => x == y

/-- Neither of the two zeros. -/
def isNonzero : Binary64 → Bool
  | .finite _ m _ => m != 0
  | _ => true

end Binary64
end ExposureLint
