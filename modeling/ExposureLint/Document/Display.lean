import ExposureLint.Document.Members
import ExposureLint.Host

/-!
The text of a value. Brackets of four kinds tell the containers apart, and a container that stands
inside itself is cut short there. The text does not exist where that of a scalar inside does not, or
where containers stand in each other that there is no room for.
-/
namespace ExposureLint.Value

inductive Fault
  | number (fault : Numeral.Fault)
  | tooDeep
deriving DecidableEq

/-- What stands for a container inside its own text. -/
def cutText : Value → Text
  | .map _ => "\x7b...\x7d"
  | .pair _ _ => "(...)"
  | .labelled _ body => cutText body
  | _ => "[...]"

/-- The texts of the containers around, each with what stands for it. -/
abbrev Around := List (Nat × Text)

def bracedText (members : List Text) : Text :=
  if members.isEmpty then Text.ofString "set()" else "\x7b" ++ Text.join ", " members ++ "\x7d"

def setText (members : List Scalar) : Except Numeral.Fault Text :=
  bracedText <$> (membersInOrder members).mapM Scalar.quoted?

/-- What is told of a container, which takes one from the room. -/
def inside {α : Type} (room : Nat) (tell : Nat → Except Fault α) : Except Fault α :=
  match room with
  | 0 => .error .tooDeep
  | room + 1 => tell room

mutual

def quotedWithin (around : Around) (room : Nat) : Value → Except Fault Text
  | .scalar s => s.quoted?.mapError .number
  | .list items => inside room fun room => do
    let parts ← quotedItems around room items
    return "[" ++ Text.join ", " parts ++ "]"
  | .pair first second => inside room fun room => do
    let a ← quotedWithin around room first
    let b ← quotedWithin around room second
    return "(" ++ a ++ ", " ++ b ++ ")"
  | .map entries => inside room fun room => do
    let parts ← quotedEntries around room entries
    return "\x7b" ++ Text.join ", " parts ++ "\x7d"
  | .set members => inside room fun _ => (setText members).mapError .number
  | .labelled n body =>
    match around.lookup n with
    | some cut => .ok cut
    | none => quotedWithin ((n, cutText body) :: around) room body
  | .ref n => .ok ((around.lookup n).getD "...")

def quotedItems (around : Around) (room : Nat) : List Value → Except Fault (List Text)
  | [] => .ok []
  | x :: rest => do
    let t ← quotedWithin around room x
    let ts ← quotedItems around room rest
    return t :: ts

def quotedEntries (around : Around) (room : Nat) :
    List (Scalar × Value) → Except Fault (List Text)
  | [] => .ok []
  | (k, x) :: rest => do
    let key ← k.quoted?.mapError .number
    let t ← quotedWithin around room x
    let ts ← quotedEntries around room rest
    return (key ++ ": " ++ t) :: ts

end

def displayWithin (room : Nat) : Value → Except Fault Text
  | .scalar s => s.display?.mapError .number
  | v => quotedWithin [] room v

section
variable [Host]

/-- The text of a value inside the text of another. -/
def quoted? (v : Value) : Except Fault Text := quotedWithin [] (Host.tellingRoom v) v

def display? (v : Value) : Except Fault Text := v.displayWithin (Host.tellingRoom v)

end

end ExposureLint.Value
