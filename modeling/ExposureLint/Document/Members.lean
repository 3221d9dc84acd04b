import ExposureLint.Document.Scalar

/-!
The order in which the members of a set are told. Numbers stand in a table of places, each in the
first free place on a path that begins at what the number leaves over when it is divided by a large
prime, and the table is read from its first place to its last. Equal numbers of different kinds
leave the same over. What a text leaves over is drawn anew whenever a program starts, and so no
order of texts is settled. A set with a member that is no number is told here in the order in which
it was put together, which stands for all of them.
-/
namespace ExposureLint

namespace Scalar

/-- The prime that numbers are divided by; a half is a whole number as seen from it, the power
`2 ^ 60`. -/
def modulus : Nat := twoTo 61 - 1

/-- A remainder with the sign of its number; minus one is left to those who want to say that there
is none. -/
def signed (negative : Bool) (remainder : Nat) : Int :=
  if !negative then remainder else if remainder == 1 then -2 else -(remainder : Int)

/-- What a number leaves over. The powers of two repeat after 61 of them. -/
def remainder? : Scalar → Option Int
  | .float (.nan _) => none
  | .float (.infinite negative) => some (signed negative 314159)
  | .float (.finite negative mant exp) =>
    some (signed negative (mant * twoTo (exp % 61).toNat % modulus))
  | s => s.toInt?.map fun i => signed (i < 0) (i.natAbs % modulus)

end Scalar

/-- A place for each position, with the member that has taken it. -/
abbrev Places := Array (Option Scalar)

namespace Places

/-- The number of places for so many members: a power of two that is more than twice their number,
or eight where they are few. -/
def sizeFor (count : Nat) : Nat := if count ≤ 4 then 8 else twoTo (Nat.log2 (2 * count) + 1)

def isFree (places : Places) (position : Nat) : Bool :=
  match places[position]? with
  | some none => true
  | _ => false

/-- How many neighbours a path looks at before it goes on elsewhere. -/
def stride : Nat := 10

/-- The first free position on the path that is at `position`. Where all of the next `stride`
positions are in the table the path takes them in turn; then it jumps. What is left of `rest` makes
paths that meet part again, and once nothing is left the jumps reach every position. -/
def free? (places : Places) : Nat → Nat → Nat → Option Nat
  | 0, _, _ => none
  | fuel + 1, position, rest =>
    let width := if position + stride ≤ places.size then stride else 1
    match ((List.range width).map (position + ·)).find? places.isFree with
    | some found => some found
    | none =>
      let rest := rest / 32
      free? places fuel ((5 * position + 1 + rest) % places.size) rest

/-- The table with one more member, where a negative remainder counts as a word of 64 bits. -/
def insert (places : Places) (remainder : Int) (member : Scalar) : Places :=
  let word := (remainder % (twoTo 64 : Int)).toNat
  match places.free? (places.size + 14) (word % places.size) word with
  | some position => places.set! position (some member)
  | none => places

end Places

namespace Value

def membersInOrder (members : List Scalar) : List Scalar :=
  match members.mapM Scalar.remainder? with
  | none => members
  | some remainders =>
    let empty : Places := Array.replicate (Places.sizeFor members.length) none
    ((remainders.zip members).foldl (fun places m => places.insert m.1 m.2) empty).toList.filterMap
      id

end Value
end ExposureLint
