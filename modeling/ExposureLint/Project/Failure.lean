import ExposureLint.Json.Printer
import ExposureLint.Json.Error
import ExposureLint.Project.Disk
import ExposureLint.Record.Fault
import ExposureLint.Spec.Check
import ExposureLint.Spec.Operations
import ExposureLint.Terminal.Markup
import ExposureLint.Yaml.Error

/-!
What can go wrong with a project. A `LintError` is one that is foreseen: it has a kind, and the kind
an exit code. A `Mishap` is one that is not, such as a number that is too large to be written, or a
text that goes deeper than the stack reaches.
-/
namespace ExposureLint

inductive ErrorKind
  | base
  | usage
  | config
  | projectNotFound
  | specNotFound
  | unsupportedFormat
  | specParse
  | invalidSpec
deriving DecidableEq

def ErrorKind.exitCode : ErrorKind → Nat
  | .base => 1
  | .usage => 2
  | .config => 3
  | .projectNotFound => 4
  | .specNotFound => 5
  | .unsupportedFormat => 6
  | .specParse => 7
  | .invalidSpec => 8

/-- What may be stated about an error besides its message: its exit code, or, for a file that cannot
be decoded, which file. -/
inductive Detail
  | exitCode
  | file
deriving DecidableEq

def ErrorKind.takes (k : ErrorKind) (d : Detail) : Bool :=
  match d with
  | .exitCode => k != .specParse
  | .file => k == .specParse

/-- All kinds but the base one are special cases of it. -/
def ErrorKind.parent? : ErrorKind → Option ErrorKind
  | .base => none
  | _ => some .base

/-- A text that is in neither of the two formats, with the text itself, which messages show. -/
inductive DecodeFault
  | json (whole : Text) (fault : Json.Fault)
  | yaml (whole : Text) (fault : Yaml.Fault)

def DecodeFault.message : DecodeFault → Text
  | .json whole fault => fault.message whole
  | .yaml whole fault => fault.message whole

inductive SettingsFault
  | unreadable (file : Path) (fault : FileFault)
  | undecodable (file : Path) (fault : DecodeFault)
  | notMapping (file : Path)
  | sectionNotMapping (file : Path)
  | rootInside (file : Path)
  | notBool (name value : Text)
  | refused (why : Record.Refused)

variable [Host]

def SettingsFault.message : SettingsFault → Text
  | .unreadable file fault => inFile file fault.message
  | .undecodable file fault => inFile file fault.message
  | .notMapping file => inFile file "expected a mapping"
  | .sectionNotMapping file => inFile file "'safety' must be a mapping"
  | .rootInside file => inFile file "'project_root' cannot be set from inside the project"
  | .notBool name value =>
    "Environment variable " ++ name ++ " must be a boolean, got '" ++ value ++ "'"
  | .refused why => "Invalid configuration: " ++ why.message
where
  inFile (file : Path) (reason : Text) : Text :=
    "Invalid project config at " ++ file.text ++ ": " ++ reason

def specNames : List Text :=
  ["openapi.json", "openapi.yaml", "openapi.yml", "swagger.json", "swagger.yaml", "swagger.yml"]

inductive LintError
  | exclusiveFormats
  | settings (fault : SettingsFault)
  | rootMissing (root : Text)
  | rootNotDirectory (root : Text)
  | noSpec (root : Text)
  | unsupportedFormat (file : Path)
  | unreadable (file : Path) (fault : FileFault)
  | undecodable (file : Path) (fault : DecodeFault)
  | unsound (fault : Spec.Unsound)
  | stated (kind : ErrorKind) (message : Text) (exitCode : Option Int) (file : Option Path)

namespace LintError

def kind : LintError → ErrorKind
  | .exclusiveFormats => .usage
  | .settings _ => .config
  | .rootMissing _ | .rootNotDirectory _ => .projectNotFound
  | .noSpec _ => .specNotFound
  | .unsupportedFormat _ => .unsupportedFormat
  | .unreadable _ _ | .undecodable _ _ => .specParse
  | .unsound _ => .invalidSpec
  | .stated kind _ _ _ => kind

/-- The exit code is that of the kind, unless another one was stated. -/
def exitCode (e : LintError) : Int :=
  match e with
  | .stated _ _ (some code) _ => code
  | e => e.kind.exitCode

def message : LintError → Text
  | .exclusiveFormats => "--json and --plain are mutually exclusive"
  | .settings fault => fault.message
  | .rootMissing root => "Project root directory does not exist: " ++ root
  | .rootNotDirectory root => "Project root is not a directory: " ++ root
  | .noSpec root =>
    "No OpenAPI specification found. An OpenAPI v3 contract is required to verify API safety "
      ++ "(looked for " ++ Text.join ", " specNames ++ " in " ++ root ++ ")."
  | .unsupportedFormat file =>
    "Unsupported file extension '" ++ file.suffix ++ "' for " ++ file.text
      ++ ". Expected .json, .yaml, or .yml"
  | .unreadable file fault =>
    "Failed to read OpenAPI file '" ++ file.text ++ "': " ++ fault.message
  | .undecodable file fault =>
    "Failed to parse OpenAPI file '" ++ file.text ++ "': " ++ fault.message
  | .unsound fault => fault.message
  | .stated _ message _ _ => message

def file? : LintError → Option Path
  | .unreadable file _ | .undecodable file _ => some file
  | .stated _ _ _ file => file
  | _ => none

end LintError

inductive Mishap
  | scalar (fault : Yaml.ScalarFault)
  | number (fault : Numeral.Fault)
  | notMapping (kind : Text)
  | encoding (fault : Utf8.Fault)
  | record (why : Record.Refused)
  | file (fault : FileFault)
  | tooDeep
  | json (fault : Json.Unwritable)
  | markup (fault : Markup.Fault)
  | unwritable (fault : Utf8.Unwritable)
  | undrawable (fault : Utf8.Unwritable)
  | unknownFormat (name : Text)
  | noSeverity
  | stated (message : Text)

def Mishap.message : Mishap → Text
  | .scalar fault => fault.message
  | .number fault => fault.message
  | .notMapping kind => "'" ++ kind ++ "' object has no attribute 'get'"
  | .encoding fault => fault.message
  | .record why => why.message
  | .file fault => fault.message
  | .tooDeep => Host.stackMessage
  | .json fault => fault.message
  | .markup fault => fault.message
  | .unwritable fault => fault.message
  | .undrawable fault => fault.message ++ drawingAdvice
  | .unknownFormat name => name.quoted ++ " is not a valid OutputFormat"
  | .noSeverity => "'Finding' object has no attribute 'severity'"
  | .stated message => message
where
  drawingAdvice : Text :=
    "\n*** You may need to add PYTHONIOENCODING=utf-8 to your environment ***"

def Mishap.ofText : Value.Fault → Mishap
  | .number fault => .number fault
  | .tooDeep => .tooDeep

inductive Failure
  | lint (e : LintError)
  | mishap (m : Mishap)

namespace Failure

def ofObstacle : Spec.Obstacle → Failure
  | .notMapping kind => .mishap (.notMapping kind)
  | .text fault => .mishap (.ofText fault)

/-- Of the faults of a text, those of single scalars are not foreseen, nor is one that goes too
deep. -/
def ofYaml (foreseen : DecodeFault → LintError) (whole : Text) : Yaml.Fault → Failure
  | .scalar fault => .mishap (.scalar fault)
  | .tooDeep => .mishap .tooDeep
  | fault => .lint (foreseen (.yaml whole fault))

def ofJson (foreseen : DecodeFault → LintError) (whole : Text) : Json.Fault → Failure
  | .number fault => .mishap (.number fault)
  | .tooDeep => .mishap .tooDeep
  | fault => .lint (foreseen (.json whole fault))

end Failure
end ExposureLint
