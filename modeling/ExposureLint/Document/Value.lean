import ExposureLint.Document.Scalar

/-!
The values that a decoded document is made of. A container may hold itself. Such a cycle is written
as a finite tree: every container on a cycle is `labelled`, and `ref n` stands for the container
labelled `n` around it. `unfold` goes one step round a cycle, and all views go through it.
-/
namespace ExposureLint

inductive Value
  | scalar (s : Scalar)
  | list (items : List Value)
  | pair (first second : Value)
  | map (entries : List (Scalar × Value))
  | set (members : List Scalar)
  | labelled (n : Nat) (body : Value)
  | ref (n : Nat)

namespace Value

def null : Value := .scalar .null
def text (t : Text) : Value := .scalar (.text t)
def bool (b : Bool) : Value := .scalar (.bool b)

instance : Inhabited Value := ⟨null⟩

mutual

/-- Every `ref n` replaced by `w`, which must hold no open reference. -/
def subst (n : Nat) (w : Value) : Value → Value
  | .scalar s => .scalar s
  | .list items => .list (substItems n w items)
  | .pair first second => .pair (subst n w first) (subst n w second)
  | .map entries => .map (substEntries n w entries)
  | .set members => .set members
  | .labelled k body => if k == n then .labelled k body else .labelled k (subst n w body)
  | .ref k => if k == n then w else .ref k

def substItems (n : Nat) (w : Value) : List Value → List Value
  | [] => []
  | x :: rest => subst n w x :: substItems n w rest

def substEntries (n : Nat) (w : Value) : List (Scalar × Value) → List (Scalar × Value)
  | [] => []
  | (k, x) :: rest => (k, subst n w x) :: substEntries n w rest

end

/-- The container itself, without its label. -/
def unfold : Value → Value
  | .labelled n body => subst n (.labelled n body) body
  | v => v

def entries? (v : Value) : Option (List (Scalar × Value)) :=
  match v.unfold with
  | .map entries => some entries
  | _ => none

def items? (v : Value) : Option (List Value) :=
  match v.unfold with
  | .list items => some items
  | _ => none

def text? : Value → Option Text
  | .scalar (.text t) => some t
  | _ => none

def find? (key : Scalar) (entries : List (Scalar × Value)) : Option Value :=
  (entries.find? fun e => e.1.sameKey key).map (·.2)

/-- The entries with one more: a key that is already there keeps its place and its first form, and
takes the new value. -/
def put (key : Scalar) (value : Value) : List (Scalar × Value) → List (Scalar × Value)
  | [] => [(key, value)]
  | (k, old) :: rest =>
    if k.sameKey key then (k, value) :: rest else (k, old) :: put key value rest

/-- The entries in the order in which their keys first occur. -/
def ofEntries (entries : List (Scalar × Value)) : List (Scalar × Value) :=
  entries.foldl (fun done e => put e.1 e.2 done) []

def isNull : Value → Bool
  | .scalar .null => true
  | _ => false

/-- A reference stands for a container that holds something, at least itself. -/
def isNothing : Value → Bool
  | .scalar s => s.isNothing
  | .list items => items.isEmpty
  | .map entries => entries.isEmpty
  | .set members => members.isEmpty
  | .pair _ _ | .labelled _ _ | .ref _ => false

def kind : Value → Text
  | .scalar s => s.kind
  | .list _ => "list"
  | .pair _ _ => "tuple"
  | .map _ => "dict"
  | .set _ => "set"
  | .labelled _ body => kind body
  | .ref _ => "list"

end Value
end ExposureLint
