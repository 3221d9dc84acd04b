import ExposureLint.Text.Basic

/-!
Expressions as trees. Of an expression only that is kept which decides whether it is a literal, what
could be assigned to it, and what messages call it.
-/
namespace ExposureLint.Expression

inductive Number
  | int (n : Nat)
  | float
  | imaginary
deriving DecidableEq

inductive Constant
  | null
  | bool (b : Bool)
  | ellipsis
  | number (n : Number)
  | text
  | bytes
deriving DecidableEq

inductive Sign
  | plus
  | minus
  | other
deriving DecidableEq

/-- The arguments of a call: how many stand by their position, and for each of the named ones
whether it unpacks a mapping. -/
structure Arguments where
  positional : Nat
  named : List Bool
deriving DecidableEq

def Arguments.isEmpty (a : Arguments) : Bool := a.positional == 0 && a.named.isEmpty

inductive Form
  | attribute
  | lambda
  | truth
  | conditional
  | naming
  | generator
  | setComprehension
  | mapComprehension
  | yielded
  | awaited
  | formatted
deriving DecidableEq

/-- `nothing` takes the place of a key in front of a mapping that is unpacked. -/
inductive Tree
  | nothing
  | constant (c : Constant)
  | name (t : Text)
  | tuple (items : List Tree)
  | set (items : List Tree)
  | map (entries : List (Tree × Tree))
  | unary (sign : Sign) (operand : Tree)
  | binary (sign : Sign) (left right : Tree)
  | comparison (left : Tree) (isMembership : Bool)
  | starred (inner : Tree)
  | call (callee : Tree) (arguments : Arguments)
  | other (form : Form)

instance : Inhabited Tree := ⟨.nothing⟩

def Constant.describe : Constant → Text
  | .null => "None"
  | .bool b => if b then "True" else "False"
  | .ellipsis => "ellipsis"
  | .number _ | .text | .bytes => "literal"

def Form.describe : Form → Text
  | .attribute => "attribute"
  | .lambda => "lambda"
  | .truth => "expression"
  | .conditional => "conditional expression"
  | .naming => "named expression"
  | .generator => "generator expression"
  | .setComprehension => "set comprehension"
  | .mapComprehension => "dict comprehension"
  | .yielded => "yield expression"
  | .awaited => "await expression"
  | .formatted => "f-string expression"

namespace Tree

def describe : Tree → Text
  | .nothing => []
  | .constant c => c.describe
  | .name _ => "name"
  | .tuple _ => "tuple"
  | .set _ => "set display"
  | .map _ => "dict literal"
  | .unary _ _ | .binary _ _ _ => "expression"
  | .comparison _ _ => "comparison"
  | .starred _ => "starred"
  | .call _ _ => "function call"
  | .other form => form.describe

mutual

/-- The part of an expression that cannot be what a loop assigns to. In front of the word for
membership stands the target of a loop that is read as a comparison. -/
def misplaced? : Tree → Option Tree
  | .tuple items => misplacedAmong? items
  | .starred inner => inner.misplaced?
  | .comparison left isMembership => if isMembership then left.misplaced? else none
  | .name _ | .other .attribute => none
  | e => some e

def misplacedAmong? : List Tree → Option Tree
  | [] => none
  | e :: rest => e.misplaced?.or (misplacedAmong? rest)

end

end Tree
end ExposureLint.Expression
