import ExposureLint.Cli.Command
import ExposureLint.Terminal.Panel

/-!
The texts that answer a command line that leads to no command: version, help, and mistakes. Help and
the words for mistakes are the business of a library for command lines, which lays them out in
panels of its own; the texts here stand in for them, with the same streams and exit codes.
-/
namespace ExposureLint.Usage

def programName : Text := "dispatchlint"

def versionText : Text := programName ++ " 1.0.0\n"

def line : Option Command → Text
  | none => "Usage: " ++ programName ++ " [OPTIONS] COMMAND [ARGS]...\n"
  | some command => "Usage: " ++ programName ++ " " ++ command.name ++ " [OPTIONS]\n"

def optionNames {α : Type} (options : List (CommandOption α)) : List Text :=
  options.map fun o => Text.join ", " (o.names.map Text.ofString)

def listed (title : Text) (names : List Text) : Text :=
  let item (name : Text) : Text := "  " ++ name ++ "\n"
  "\n" ++ title ++ ":\n" ++ names.flatMap item

def help : Option Command → Text
  | none =>
    (line none : Text)
      ++ "\nCheck that every write route of an OpenAPI 3.x API declares authentication.\n"
      ++ listed "Options" (optionNames RootChoices.options)
      ++ listed "Commands" (Command.all.map Command.name)
  | some command => line (some command) ++ listed "Options" (optionNames command.options)

def misuse (columns : Nat) (command : Option Command) (m : Misuse) : Text :=
  (if m.showsUsage then line command else []) ++ Panel.draw columns " Error " m.message

end ExposureLint.Usage
