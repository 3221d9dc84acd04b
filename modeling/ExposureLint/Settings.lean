import ExposureLint.Project.Pipeline
import ExposureLint.Record.Field

/-!
The settings of one run. They come, the strongest first, from the command line, from the
environment, from a section of a file in the project, and from defaults. The root of the project is
settled first, since it decides which file is read.
-/
namespace ExposureLint

/-- How output is written; `auto` is settled by the terminal. -/
inductive OutputFormat
  | auto
  | json
  | plain
  | rich
deriving DecidableEq

namespace OutputFormat

def all : List OutputFormat := [.auto, .json, .plain, .rich]

def name : OutputFormat → Text
  | .auto => "auto"
  | .json => "json"
  | .plain => "plain"
  | .rich => "rich"

def ofName? (t : Text) : Option OutputFormat := all.find? fun f => f.name == t

end OutputFormat

structure Settings where
  root : Text
  strict : Bool
  allowMissing : Bool
  format : OutputFormat
deriving DecidableEq

namespace Settings

def modelName : Text := "LintConfig"

def fields : List String := ["project_root", "strict", "allow_missing_spec", "output_format"]

/-- The name of a format in any case. -/
def readFormat (v : Value) : Record.Reading OutputFormat := do
  let name := Text.lower (← Record.readText v)
  match OutputFormat.ofName? name with
  | some f => return f
  | none => throw (.refused ("output_format must be one of "
      ++ Text.join ", " (OutputFormat.all.map OutputFormat.name) ++ ", got '" ++ name ++ "'"))

/-- The settings in a record, which may have no other fields. -/
def ofRecord (record : Value) : Except Record.Refused Settings :=
  let read := ((((Record.Collected.pure Settings.mk).both
    (Record.optional record "project_root" "." Record.readText)).both
    (Record.optional record "strict" false Record.readBool)).both
    (Record.optional record "allow_missing_spec" false Record.readBool)).both
    (Record.optional record "output_format" .auto readFormat)
  Record.finish modelName record
    { read with faults := read.faults ++ Record.unknownKeys record fields }

def toRecord (s : Settings) : Value := .map [
  (.text "project_root", .text s.root),
  (.text "strict", .bool s.strict),
  (.text "allow_missing_spec", .bool s.allowMissing),
  (.text "output_format", .text s.format.name)]

end Settings

abbrev Environment := List (Text × Text)

namespace Environment

def get? (env : Environment) (name : Text) : Option Text := env.lookup name

/-- The value of a variable, where an empty one counts as none. -/
def filled? (env : Environment) (name : Text) : Option Text :=
  (env.get? name).filter fun t => !t.isEmpty

def project : Text := "DISPATCHLINT_PROJECT"
def strict : Text := "DISPATCHLINT_STRICT"
def allowMissing : Text := "DISPATCHLINT_ALLOW_MISSING_SPEC"
def format : Text := "DISPATCHLINT_FORMAT"

def trueWords : List Text := ["1", "true", "yes", "on"]
def falseWords : List Text := ["0", "false", "no", "off"]

/-- A truth value in a variable, in any case and with white space around it; none when it is not set
or blank. -/
def bool? (env : Environment) (name : Text) : Except SettingsFault (Option Bool) :=
  let word := Text.lower (Text.strip ((env.get? name).getD []))
  if word.isEmpty then .ok none
  else if trueWords.contains word then .ok (some true)
  else if falseWords.contains word then .ok (some false)
  else .error (.notBool name word)

end Environment

structure Choices where
  project : Option Text
  strict : Option Bool
  allowMissing : Option Bool
  format : Option Text

namespace Settings

def fileName : Text := "dispatch.yaml"
def sectionName : Text := "safety"

def refuse {α : Type} (fault : SettingsFault) : Except Failure α :=
  .error (.lint (.settings fault))

/-- The entries of the section, from the value of the whole file. -/
def sectionOf (file : Path) (whole : Value) : Except Failure (List (Scalar × Value)) :=
  if whole.isNull then .ok []
  else match whole.entries? with
    | none => refuse (.notMapping file)
    | some entries =>
      match Spec.field? entries sectionName with
      | none => .ok []
      | some found =>
        if found.isNull then .ok []
        else match found.entries? with
          | none => refuse (.sectionNotMapping file)
          | some fields =>
            if (Spec.field? fields "project_root").isSome then refuse (.rootInside file)
            else .ok fields

variable [Host]

/-- The section of the file in a project, empty where there is no file or no section. -/
def loadSection (disk : Disk) (root : Text) : Except Failure (List (Scalar × Value)) := do
  let file := (Path.ofText root).child fileName
  if !(← (disk.isFile file).mapError fun fault => .mishap (.file fault)) then return []
  let whole ← match disk.readText file with
    | .ok t => pure t
    | .error (.encoding fault) => throw (.mishap (.encoding fault))
    | .error fault => refuse (.unreadable file fault)
  let value ← decode (fun fault => .settings (.undecodable file fault)) .yaml whole
  sectionOf file value

/-- The root of the project: what is given first, where an empty text counts as not given. -/
def rootOf (env : Environment) (c : Choices) : Text :=
  ((c.project.filter fun t => !t.isEmpty).or (env.filled? Environment.project)).getD "."

/-- A field that is put over what is there, if it is given. -/
def override (name : String) (value : Option Value) (entries : List (Scalar × Value)) :
    List (Scalar × Value) :=
  match value with
  | some v => Value.put (.text name) v entries
  | none => entries

def resolve (disk : Disk) (env : Environment) (c : Choices) : Except Failure Settings := do
  let root := rootOf env c
  let entries ← loadSection disk root
  let asFailure (fault : SettingsFault) : Failure := .lint (.settings fault)
  let envStrict ← (env.bool? Environment.strict).mapError asFailure
  let envAllow ← (env.bool? Environment.allowMissing).mapError asFailure
  let entries := entries
    |> override "strict" ((c.strict.or envStrict).map .bool)
    |> override "allow_missing_spec" ((c.allowMissing.or envAllow).map .bool)
    |> override "output_format" ((c.format.or (env.filled? Environment.format)).map .text)
    |> override "project_root" (some (.text root))
  (ofRecord (.map entries)).mapError fun why => asFailure (.refused why)

end Settings
end ExposureLint
