import ExposureLint.Expression.Literal
import ExposureLint.Text.CharacterName
import ExposureLint.Text.Word

/-!
Actions that a tag of marked-up text asks for: a name, and behind it the arguments in brackets,
which are a literal. Nothing of an action is shown, but arguments that have no value are a fault.
-/
namespace ExposureLint.Action

/-- What has no value: the whole text of the action, the part that holds the arguments, and why. -/
structure Fault where
  whole : Text
  part : Text
  cause : Expression.Fault
deriving DecidableEq

/-- The part is told only where it cannot be read. -/
def Fault.message (f : Fault) : Text :=
  let place : Text := match f.cause with
    | .unreadable _ => f.part.quoted ++ " in " ++ f.whole.quoted
    | _ => f.whole.quoted
  "error parsing " ++ place ++ "; " ++ f.cause.message

/-- The part of an action that holds the arguments: what is in brackets behind the name, nothing for
a name alone, and all of it where it has no such form. -/
def argumentsOf (action : Text) : Text :=
  let behind : Text := action.dropWhile fun c => c.isWordPart || c.isIn "_."
  if behind.isEmpty then "()"
  else if behind.startsWith "(" && behind.endsWith ")" && !behind.any (· == '\n') then behind
  else action

def validate (whole : Text) : Except Fault Unit :=
  let part := argumentsOf (Text.strip whole)
  if whole.isEmpty then .ok ()
  else match Expression.Literal.ofText CharacterName.isKnown part with
    | .ok _ => .ok ()
    | .error cause => .error ⟨whole, part, cause⟩

end ExposureLint.Action
