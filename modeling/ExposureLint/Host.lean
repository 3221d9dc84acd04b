import ExposureLint.Document.Value

/-!
The machine that the program runs on, as far as a run depends on it: how far its stack reaches, what
it writes down of a crash, and where an account has its home. What is shown of runs is shown for
every machine.
-/
namespace ExposureLint

/-- The room for a text is how many containers may stand in each other when it is read, and the room
for a value how many when it is told, before the stack is used up. Other work takes from the stack,
too, and more of it for some texts than for others; so each has a room of its own. A traceback is
told by the message of what was raised. -/
class Host where
  jsonRoom : Text → Nat
  yamlRoom : Text → Nat
  tellingRoom : Value → Nat
  traceback : Text → Text
  accountHome : Text

namespace Host

/-- The machine where no other one is asked for. -/
instance usual : Host where
  jsonRoom _ := 960
  yamlRoom _ := 470
  tellingRoom _ := 960
  traceback message := message ++ "\n"
  accountHome := "/root"

/-- The message when the stack is used up. It goes on with the kind of call that was one too many,
which is left out. -/
def stackMessage : Text := "maximum recursion depth exceeded"

end Host
end ExposureLint
