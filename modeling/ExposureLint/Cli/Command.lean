import ExposureLint.Cli.Option
import ExposureLint.Settings

/-!
The commands and their options. Options for all commands come in front of the command. Help and
version are answered before anything else is done, in the order in which they are asked for.
-/
namespace ExposureLint

/-- What ends the reading of a command line with an answer. -/
inductive Request
  | version
  | help
deriving DecidableEq

structure RootChoices where
  json : Bool
  plain : Bool
  noColor : Bool
  quiet : Bool
  verbose : Bool
  requests : List Request
deriving DecidableEq

namespace RootChoices

def none : RootChoices := ⟨false, false, false, false, false, []⟩

def options : List (CommandOption RootChoices) := [
  ⟨["--version"], .flag fun c => { c with requests := c.requests ++ [.version] }⟩,
  ⟨["--json"], .flag fun c => { c with json := true }⟩,
  ⟨["--plain"], .flag fun c => { c with plain := true }⟩,
  ⟨["--no-color"], .flag fun c => { c with noColor := true }⟩,
  ⟨["--quiet", "-q"], .flag fun c => { c with quiet := true }⟩,
  ⟨["--verbose", "-v"], .flag fun c => { c with verbose := true }⟩,
  ⟨["--help"], .flag fun c => { c with requests := c.requests ++ [.help] }⟩]

/-- The format that the choices ask for; only one can be asked for. -/
def format (c : RootChoices) : Except LintError OutputFormat :=
  match c.json, c.plain with
  | true, true => .error .exclusiveFormats
  | true, false => .ok .json
  | false, true => .ok .plain
  | false, false => .ok .auto

end RootChoices

inductive Command
  | check
  | routes
deriving DecidableEq

structure CommandChoices where
  project : Option Text
  strict : Option Bool
  allowMissing : Option Bool
  requests : List Request
deriving DecidableEq

namespace CommandChoices

def none : CommandChoices := ⟨.none, .none, .none, []⟩

/-- What the settings are resolved from, with the format that is chosen for all commands. -/
def choices (c : CommandChoices) (format : OutputFormat) : Choices :=
  ⟨c.project, c.strict, c.allowMissing, if format == .auto then .none else some format.name⟩

end CommandChoices

namespace Command

def all : List Command := [.check, .routes]

def name : Command → Text
  | .check => "check"
  | .routes => "routes"

def ofName? (t : Text) : Option Command := all.find? fun c => c.name == t

def projectOption : CommandOption CommandChoices :=
  ⟨["--project", "-p"], .value fun t c => { c with project := some t }⟩

def helpOption : CommandOption CommandChoices :=
  ⟨["--help"], .flag fun c => { c with requests := c.requests ++ [.help] }⟩

/-- The options of a command. Of two that contradict each other, the last one counts. -/
def options : Command → List (CommandOption CommandChoices)
  | .check => [
    projectOption,
    ⟨["--strict"], .flag fun c => { c with strict := some true }⟩,
    ⟨["--no-strict"], .flag fun c => { c with strict := some false }⟩,
    ⟨["--allow-missing-spec"], .flag fun c => { c with allowMissing := some true }⟩,
    ⟨["--require-spec"], .flag fun c => { c with allowMissing := some false }⟩,
    helpOption]
  | .routes => [projectOption, helpOption]

end Command

inductive Refusal
  | asked (request : Request)
  | noArguments
  | misuse (m : Misuse)
deriving DecidableEq

def Refusal.unlessAsked {α : Type} (requests : List Request) (x : α) : Except Refusal α :=
  match requests with
  | request :: _ => .error (.asked request)
  | [] => .ok x

namespace RootChoices

def readOptions (args : List Text) : Except Refusal (RootChoices × List Text) :=
  match CommandOption.readAll options false none args with
  | .error m => .error (.misuse m)
  | .ok (choices, rest) => Refusal.unlessAsked choices.requests (choices, rest)

/-- The choices for all commands, the command, and its own arguments. An unknown command that looks
like an option is read as one before it is refused. -/
def read (args : List Text) : Except Refusal (RootChoices × Command × List Text) := do
  if args.isEmpty then throw .noArguments
  let (choices, rest) ← readOptions args
  match rest with
  | [] => throw (.misuse .missingCommand)
  | name :: own =>
    match Command.ofName? name with
    | some command => return (choices, command, own)
    | .none =>
      let _ ← readOptions rest
      throw (.misuse (.unknownCommand name))

end RootChoices

namespace CommandChoices

def read (command : Command) (args : List Text) : Except Refusal CommandChoices :=
  match CommandOption.readAll command.options true none args with
  | .error m => .error (.misuse m)
  | .ok (choices, rest) => do
    let choices ← Refusal.unlessAsked choices.requests choices
    if rest.isEmpty then return choices else throw (.misuse (.extraArguments rest))

end CommandChoices
end ExposureLint
