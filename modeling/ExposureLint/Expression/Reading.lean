import ExposureLint.Expression.Quoted

/-!
Reading tokens by ordered choice. A reading finds something, or nothing, or ends in a fault at once.
What a rule of the grammar finds at a position is kept, so that it is read there once only. A second
reading of the same tokens, for diagnosis, tries also what is known to be wrong, to tell why.
-/
namespace ExposureLint.Expression

/-- The rules whose findings are kept. -/
inductive Rule
  | expression
  | starExpression
  | disjunction
  | conjunction
  | inversion
  | bitOr
  | bitXor
  | bitAnd
  | shift
  | sum
  | term
  | factor
  | awaited
  | primary
  | quoted
  | arguments
  | target
  | targetEnd
  | targetStart
  | misnaming
deriving DecidableEq

structure Source where
  tokens : Array Token
  surrounding : Surrounding
  isDiagnosis : Bool

/-- What a rule has found at a position, with the position behind it. -/
abbrev Finding := Option (Tree × Nat)

/-- The position, the number of tokens that have been looked at, and what has been found at each
position. -/
structure Progress where
  position : Nat
  seen : Nat
  kept : Array (List (Rule × Finding))

def Progress.start (size : Nat) : Progress := ⟨0, 0, Array.replicate (size + 1) []⟩

/-- `refused` is a finding of nothing that no other choice makes up for, and `stopped` means that
more tokens are needed than there are. -/
inductive Outcome (α : Type)
  | found (a : α)
  | absent
  | refused
  | stopped
  | fault (cause : Cause)

abbrev Reader (α : Type) := Source → Progress → Outcome α × Progress

namespace Reader

def giving {α : Type} (a : α) : Reader α := fun _ p => (.found a, p)

def thenWith {α β : Type} (r : Reader α) (f : α → Reader β) : Reader β := fun s p =>
  match r s p with
  | (.found a, p) => f a s p
  | (.absent, p) => (.absent, p)
  | (.refused, p) => (.refused, p)
  | (.stopped, p) => (.stopped, p)
  | (.fault cause, p) => (.fault cause, p)

instance : Monad Reader where
  pure := giving
  bind := thenWith

def absent {α : Type} : Reader α := fun _ p => (.absent, p)

/-- Nothing is found, and no other choice is to be tried. -/
def refuse {α : Type} : Reader α := fun _ p => (.refused, p)

def complain {α : Type} (what : Complaint) : Reader α := fun _ p => (.fault (.complaint what), p)

def ofExcept {α : Type} (r : Except Cause α) : Reader α := fun _ p =>
  match r with
  | .ok a => (.found a, p)
  | .error cause => (.fault cause, p)

def token {α : Type} (accept : Token → Option α) : Reader α := fun s p =>
  match s.tokens[p.position]? with
  | none => (.stopped, p)
  | some t =>
    let next := p.position + 1
    let p := { p with seen := max p.seen next }
    match accept t with
    | some a => (.found a, { p with position := next })
    | none => (.absent, p)

def fixed (word : String) : Reader Unit :=
  token fun t => if t.lexeme = .fixed word then some () else none

/-- The number of brackets that are open behind the token before. -/
def level : Reader Nat := fun s p =>
  (.found ((s.tokens[p.position - 1]?.map (·.level)).getD 0), p)

def first {α : Type} : List (Reader α) → Reader α
  | [] => absent
  | r :: rest => fun s p =>
    match r s p with
    | (.absent, after) => first rest s { after with position := p.position }
    | (.refused, after) => (.absent, { after with position := p.position })
    | outcome => outcome

/-- If nothing is found from here on, no other choice is to be tried. -/
def committed {α : Type} (r : Reader α) : Reader α := fun s p =>
  match r s p with
  | (.absent, after) => (.refused, after)
  | outcome => outcome

def optional {α : Type} (r : Reader α) : Reader (Option α) := fun s p =>
  match r s p with
  | (.found a, after) => (.found (some a), after)
  | (.absent, after) | (.refused, after) => (.found none, { after with position := p.position })
  | (.stopped, after) => (.stopped, after)
  | (.fault cause, after) => (.fault cause, after)

/-- Whether a reader finds something here; nothing of it is taken. -/
def finds {α : Type} (r : Reader α) : Reader Bool := fun s p =>
  match optional r s p with
  | (.found a, after) => (.found a.isSome, { after with position := p.position })
  | (.absent, after) => (.absent, after)
  | (.refused, after) => (.refused, after)
  | (.stopped, after) => (.stopped, after)
  | (.fault cause, after) => (.fault cause, after)

def followed {α : Type} (r : Reader α) : Reader Unit := do
  if ← finds r then return () else absent

def notFollowed {α : Type} (r : Reader α) : Reader Unit := do
  if ← finds r then absent else return ()

def manyFrom {α : Type} (r : Reader α) : Nat → Reader (List α)
  | 0 => giving []
  | fuel + 1 => do
    match ← optional r with
    | some a => return a :: (← manyFrom r fuel)
    | none => return []

/-- As many as there are. Each takes a token at least. -/
def many {α : Type} (r : Reader α) : Reader (List α) := fun s p =>
  manyFrom r (s.tokens.size + 1) s p

def several {α : Type} (r : Reader α) : Reader (List α) := do
  return (← r) :: (← many r)

def separated {α : Type} (r : Reader α) : Reader (List α) := do
  return (← r) :: (← many do fixed ","; r)

/-- One or more with commas between them, and whether there is one behind the last. -/
def series {α : Type} (r : Reader α) : Reader (List α × Bool) := do
  let items ← separated r
  return (items, (← optional (fixed ",")).isSome)

def growFrom {α : Type} (grow : α → Reader α) : Nat → α → Reader α
  | 0, a => giving a
  | fuel + 1, a => do
    match ← optional (grow a) with
    | some b => growFrom grow fuel b
    | none => return a

/-- What is found first, as long as it can be made more of by what stands behind it. -/
def growing {α : Type} (r : Reader α) (grow : α → Reader α) : Reader α := fun s p =>
  (do growFrom grow (s.tokens.size + 1) (← r) : Reader α) s p

def diagnosing {α : Type} (r : Reader α) : Reader α := fun s p =>
  if s.isDiagnosis then r s p else (.absent, p)

def plainly {α : Type} (r : Reader α) : Reader α := fun s p => r { s with isDiagnosis := false } p

/-- What a rule finds here, from what is kept or by reading. -/
def keeping (rule : Rule) (r : Reader Tree) : Reader Tree := fun s p =>
  let keep (after : Progress) (finding : Finding) : Progress :=
    { after with kept := after.kept.modify p.position fun findings => (rule, finding) :: findings }
  match (p.kept[p.position]?.getD []).lookup rule with
  | some (some (tree, position)) => (.found tree, { p with position })
  | some none => (.absent, p)
  | none =>
    match r s p with
    | (.found tree, after) => (.found tree, keep after (some (tree, after.position)))
    | (.absent, after) | (.refused, after) =>
      (.absent, keep { after with position := p.position } none)
    | outcome => outcome

end Reader
end ExposureLint.Expression
