/-!
Arithmetic on natural numbers that several parts share: powers, sums, and quotients that are rounded
to the nearest.
-/
namespace ExposureLint

def twoTo (n : Nat) : Nat := Nat.pow 2 n

def tenTo (n : Nat) : Nat := Nat.pow 10 n

def total : List Nat → Nat
  | [] => 0
  | n :: rest => n + total rest

/-- The quotient rounded to the nearest, a tie to the even one. -/
def roundDiv (num den : Nat) : Nat :=
  let q := num / den
  let r := num % den
  if den < 2 * r then q + 1
  else if 2 * r < den then q
  else q + q % 2

end ExposureLint
