import ExposureLint.Text.Quoted

/-!
Reading options from a command line. A long option may have its value behind an equals sign, short
ones may stand together behind one hyphen, and a short one that takes a value may have it right
behind it. Two hyphens end the options. Which command lines are mistaken is settled here; the words
for a mistake stand in for those of the library that reads options.
-/
namespace ExposureLint

inductive OptionEffect (α : Type)
  | flag (set : α → α)
  | value (set : Text → α → α)

structure CommandOption (α : Type) where
  names : List String
  effect : OptionEffect α

inductive Misuse
  | unknownOption (name : Text)
  | needsArgument (name : Text)
  | takesNoValue (name : Text)
  | unknownCommand (name : Text)
  | missingCommand
  | extraArguments (args : List Text)
deriving DecidableEq

def Misuse.message : Misuse → Text
  | .unknownOption name => "No such option: " ++ name
  | .needsArgument name => "Option " ++ name.quoted ++ " requires an argument."
  | .takesNoValue name => "Option " ++ name.quoted ++ " does not take a value."
  | .unknownCommand name => "No such command " ++ name.quoted ++ "."
  | .missingCommand => "Missing command."
  | .extraArguments args =>
    let word : Text := if args.length == 1 then "argument" else "arguments"
    "Got unexpected extra " ++ word ++ " (" ++ Text.join " " args ++ ")"

/-- Whether it says with a mistake how the program is used. A wrong value is told by itself. -/
def Misuse.showsUsage : Misuse → Bool
  | .needsArgument _ | .takesNoValue _ => false
  | _ => true

namespace CommandOption

def isHyphen (c : CodePoint) : Bool := c == '-'
def isEquals (c : CodePoint) : Bool := c == '='

/-- A hyphen and one letter make a short name. -/
def isShort (name : Text) : Bool :=
  name.length == 2 && !(name.drop 1).any isHyphen

def named? {α : Type} (options : List (CommandOption α)) (name : Text) :
    Option (CommandOption α) :=
  options.find? fun o => o.names.any fun n => Text.ofString n == name

/-- An argument that begins with a hyphen is an option, unless it is the hyphen alone. -/
def looksLikeOption (arg : Text) : Bool := arg.head?.any isHyphen && arg.length != 1

/-- What an option still needs after its argument has been read. -/
inductive Read (α : Type)
  | done (choices : α)
  | pending (name : Text) (set : Text → α → α) (choices : α)

def readShort {α : Type} (options : List (CommandOption α)) (choices : α) :
    Text → Except Misuse (Read α)
  | [] => .ok (.done choices)
  | c :: rest =>
    let name : Text := [CodePoint.ofChar '-', c]
    match named? options name with
    | none => .error (.unknownOption name)
    | some o =>
      match o.effect with
      | .flag set => readShort options (set choices) rest
      | .value set =>
        if rest.isEmpty then .ok (.pending name set choices) else .ok (.done (set rest choices))

/-- One argument that is an option. What is no long option is read as short ones, unless it begins
with two hyphens. -/
def readOne {α : Type} (options : List (CommandOption α)) (choices : α) (arg : Text) :
    Except Misuse (Read α) :=
  let name := arg.takeWhile fun c => !isEquals c
  let value? := (arg.drop name.length).tail?
  let long? := if isShort name then none else named? options name
  match long? with
  | some o =>
    match o.effect, value? with
    | .flag set, none => .ok (.done (set choices))
    | .flag _, some _ => .error (.takesNoValue name)
    | .value set, some value => .ok (.done (set value choices))
    | .value set, none => .ok (.pending name set choices)
  | none =>
    if (arg.drop 1).head?.any isHyphen then .error (.unknownOption name)
    else readShort options choices (arg.drop 1)

/-- Reads the options of a command line; what is left are the arguments that are no options. Unless
`mixed`, the first such argument ends the options. -/
def readAll {α : Type} (options : List (CommandOption α)) (mixed : Bool) (choices : α) :
    List Text → Except Misuse (α × List Text)
  | [] => .ok (choices, [])
  | arg :: rest =>
    if arg == Text.ofString "--" then .ok (choices, rest)
    else if looksLikeOption arg then
      match readOne options choices arg with
      | .error misuse => .error misuse
      | .ok (.done choices) => readAll options mixed choices rest
      | .ok (.pending name set choices) =>
        match rest with
        | [] => .error (.needsArgument name)
        | value :: rest => readAll options mixed (set value choices) rest
    else if mixed then (fun (choices, left) => (choices, arg :: left)) <$>
      readAll options mixed choices rest
    else .ok (choices, arg :: rest)

end CommandOption
end ExposureLint
