import ExposureLint.Document.Calendar
import ExposureLint.Number.Numeral
import ExposureLint.Number.Shortest

/-!
The values of a decoded document that hold no other values. Each has two texts: the one it has by
itself, `display?`, and the one it has inside the text of a list or a mapping, `quoted?`. Both exist
for all scalars but integers above the limit on digits.
-/
namespace ExposureLint

inductive Scalar
  | null
  | bool (b : Bool)
  | int (i : Int)
  | float (x : Binary64)
  | text (t : Text)
  | bytes (content : List UInt8)
  | date (d : Date)
  | moment (m : Moment)
deriving DecidableEq

namespace Scalar

instance : Coe Text Scalar := ⟨.text⟩

/-- The integer that a truth value or a number is equal to. -/
def toInt? : Scalar → Option Int
  | .bool b => some (if b then 1 else 0)
  | .int i => some i
  | .float x => x.toInt?
  | _ => none

/-- Equality of keys. Truth values and numbers are equal when their numbers are, so `1`, `1.0` and
`true` are one key. -/
def sameKey (a b : Scalar) : Bool :=
  match a, b with
  | .text s, .text t => s == t
  | .null, .null => true
  | .bytes s, .bytes t => s == t
  | .date d, .date e => d == e
  | .moment m, .moment n => m.sameKey n
  | .float x, .float y => x.sameKey y
  | a, b =>
    match a.toInt?, b.toInt? with
    | some i, some j => i == j
    | _, _ => false

def kind : Scalar → Text
  | .null => "NoneType"
  | .bool _ => "bool"
  | .int _ => "int"
  | .float _ => "float"
  | .text _ => "str"
  | .bytes _ => "bytes"
  | .date _ => "date"
  | .moment _ => "datetime"

/-- Zeros, empty texts, `false` and null count as nothing. -/
def isNothing : Scalar → Bool
  | .null => true
  | .bool b => !b
  | .int i => i == 0
  | .float x => !x.isNonzero
  | .text t => t.isEmpty
  | .bytes content => content.isEmpty
  | .date _ | .moment _ => false

def boolText (b : Bool) : Text := if b then "True" else "False"

def quoted? : Scalar → Except Numeral.Fault Text
  | .null => .ok "None"
  | .bool b => .ok (boolText b)
  | .int i => Numeral.ofInt? i
  | .float x => .ok x.text
  | .text t => .ok t.quoted
  | .bytes content => .ok (quotedBytes content)
  | .date d => .ok d.quoted
  | .moment m => .ok m.quoted

def display? : Scalar → Except Numeral.Fault Text
  | .text t => .ok t
  | .date d => .ok d.text
  | .moment m => .ok m.text
  | s => s.quoted?

end Scalar
end ExposureLint
