import ExposureLint.Number.Binary64
import ExposureLint.Text.Basic

/-!
The shortest decimal text of a number: of all decimals that read back as the number, one with the
fewest digits, and of those the nearest. Exponents from -4 to 15 are written positionally with at
least one digit after the point; all others with a signed exponent of two digits or more.
-/
namespace ExposureLint.Binary64

/-- A decimal `digits * 10 ^ exp10`. -/
structure Decimal where
  digits : Nat
  exp10 : Int
deriving DecidableEq

/-- `num / den` on the grid of multiples of `10 ^ k`, rounded down. -/
def onGrid (num den : Nat) (k : Int) : Nat :=
  if 0 ≤ k then num / (den * tenTo k.toNat) else num * tenTo (-k).toNat / den

/-- The distance between `digits * 10 ^ k` and `num / den`, in units that depend on `num`, `den` and
`k` alone. -/
def gridDistance (num den : Nat) (k : Int) (digits : Nat) : Nat :=
  let (a, b) :=
    if 0 ≤ k then (num, digits * tenTo k.toNat * den) else (num * tenTo (-k).toNat, digits * den)
  (a - b) + (b - a)

/-- The exponent of the first digit of `num / den`, searched upward from `k`. -/
def leadingExp (num den : Nat) : Nat → Int → Int
  | 0, k => k
  | fuel + 1, k => if onGrid num den (k + 1) == 0 then k else leadingExp num den fuel (k + 1)

/-- The neighbour of the number on a grid that reads back as the number, the nearer of two. -/
def hitOnGrid (num den : Nat) (x : Binary64) (k : Int) : Option Nat :=
  let low := onGrid num den k
  let reads (d : Nat) : Bool := ofDecimal false d k == x
  let nearer := if gridDistance num den k (low + 1) < gridDistance num den k low
    then [low + 1, low] else [low, low + 1]
  (nearer.filter (0 < ·)).find? reads

/-- The first grid with a hit, from one digit to seventeen. -/
def firstHit (num den : Nat) (x : Binary64) (top : Int) : Nat → Int → Decimal
  | 0, k => ⟨onGrid num den k, k⟩
  | fuel + 1, k =>
    match hitOnGrid num den x k with
    | some d => ⟨d, k⟩
    | none => firstHit num den x top fuel (k - 1)

def shortest (x : Binary64) : Decimal :=
  match x.ratio? with
  | none => ⟨0, 0⟩
  | some (num, den) =>
    let start : Int := ((Nat.log2 num : Int) - (Nat.log2 den : Int)) * 3 / 10 - 2
    let top := leadingExp num den 8 start
    firstHit num den x top 17 top

def Decimal.trim : Nat → Decimal → Decimal
  | 0, d => d
  | fuel + 1, d =>
    if d.digits != 0 && d.digits % 10 == 0 then trim fuel ⟨d.digits / 10, d.exp10 + 1⟩ else d

def Decimal.text (d : Decimal) : Text :=
  let d := d.trim 400
  let digits := Text.ofNat d.digits
  let point : Int := digits.length + d.exp10
  if -3 ≤ point && point ≤ 16 then
    if point ≤ 0 then "0." ++ List.replicate (-point).toNat (CodePoint.ofChar '0') ++ digits
    else if digits.length ≤ point.toNat then
      digits ++ List.replicate (point.toNat - digits.length) (CodePoint.ofChar '0') ++ ".0"
    else digits.take point.toNat ++ "." ++ digits.drop point.toNat
  else
    let e := point - 1
    let mant := match digits with
      | [] => []
      | [c] => [c]
      | c :: rest => c :: CodePoint.ofChar '.' :: rest
    mant ++ (if e < 0 then "e-" else "e+") ++ Text.padZero 2 (Text.ofNat e.natAbs)

/-- The text of a number; `inf`, `-inf` and `nan` for what is not finite. -/
def text : Binary64 → Text
  | .nan _ => "nan"
  | .infinite negative => if negative then "-inf" else "inf"
  | .finite negative m e =>
    (if negative then "-" else "") ++
      (if m == 0 then Text.ofString "0.0" else (shortest (.finite false m e)).text)

end ExposureLint.Binary64
