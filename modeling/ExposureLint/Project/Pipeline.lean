import ExposureLint.Json.Reader
import ExposureLint.Project.Failure
import ExposureLint.Report
import ExposureLint.Yaml.Build

/-!
From the directory of a project to the report on it: finding the description, decoding it, checking
it, listing its operations and applying the rules. Every step may leave notes, which stay even when
a later step fails.
-/
namespace ExposureLint

inductive Note
  | discovered (file : Path)
  | noneIn (root : Path)
  | loaded (version : Text) (file : Path)
  | evaluated (operations : Nat) (summary : Summary)
  | skipping (root : Text)
deriving DecidableEq

namespace Note

def source : Note → Text
  | .discovered _ | .noneIn _ | .loaded _ _ => "dispatchlint.parser.loader"
  | .evaluated _ _ | .skipping _ => "dispatchlint.safety.report"

def message : Note → Text
  | .discovered file => "Discovered spec file " ++ file.text
  | .noneIn root => "No spec file found in " ++ root.text
  | .loaded version file => "Loaded OpenAPI " ++ version ++ " document from " ++ file.text
  | .evaluated count summary =>
    "Evaluated " ++ Text.ofNat count ++ " operations: " ++ Text.ofNat summary.block
      ++ " blocking, " ++ Text.ofNat summary.warn ++ " warnings"
  | .skipping root => "No spec in " ++ root ++ ", skipping safety checks"

end Note

/-- A step of the pipeline: it leaves notes, and it may fail. -/
abbrev Step (α : Type) := ExceptT Failure (StateM (List Note)) α

namespace Step

def note (n : Note) : Step Unit := modify fun notes => notes ++ [n]

def fail {α : Type} (e : LintError) : Step α := throw (.lint e)

def ofExcept {α : Type} (r : Except Failure α) : Step α :=
  match r with
  | .ok x => return x
  | .error e => throw e

/-- What is found on a disk; faults of the disk are not foreseen. -/
def ofDisk {α : Type} (r : Except FileFault α) : Step α :=
  ofExcept (r.mapError fun fault => .mishap (.file fault))

def outcome {α : Type} (s : Step α) : Except Failure α × List Note := Id.run (s.run.run [])

end Step

inductive Format
  | json
  | yaml
deriving DecidableEq

/-- The format of a file, by the end of its name in any case. -/
def Format.ofPath? (p : Path) : Option Format :=
  let suffix := Text.lower p.suffix
  if suffix == Text.ofString ".json" then some .json
  else if suffix == Text.ofString ".yaml" || suffix == Text.ofString ".yml" then some .yaml
  else none

variable [Host]

/-- The value in a text, where `foreseen` says which error a fault of the text is. -/
def decode (foreseen : DecodeFault → LintError) (format : Format) (whole : Text) :
    Except Failure Value :=
  match format with
  | .json => (Json.readWithin (Host.jsonRoom whole) whole).mapError (Failure.ofJson foreseen whole)
  | .yaml => (Yaml.read (Host.yamlRoom whole) whole).mapError (Failure.ofYaml foreseen whole)

namespace Spec

/-- The file that describes a project: the first of the names that is a file in the root. -/
def discover (disk : Disk) (root : Text) : Step (Option Path) := do
  let place ← Step.ofDisk (disk.resolve (Path.ofText root))
  if !(← Step.ofDisk (disk.isThere place)) then Step.fail (.rootMissing root)
  if !(← Step.ofDisk (disk.isDirectory place)) then Step.fail (.rootNotDirectory root)
  match ← Step.ofDisk ((specNames.map place.child).findM? disk.isFile) with
  | some file =>
    Step.note (.discovered file)
    return some file
  | none =>
    Step.note (.noneIn place)
    return none

/-- The same, where a project without a description is an error. -/
def find (disk : Disk) (root : Text) : Step Path := do
  match ← discover disk root with
  | some file => return file
  | none => Step.fail (.noSpec root)

def parse (disk : Disk) (file : Path) : Except Failure Value :=
  match Format.ofPath? file with
  | none => .error (.lint (.unsupportedFormat file))
  | some format =>
    match disk.readText file with
    | .error (.unnameable why) => .error (.mishap (.file (.unnameable why)))
    | .error fault => .error (.lint (.unreadable file fault))
    | .ok whole => decode (.undecodable file) format whole

def validate (document : Value) : Except Failure Text :=
  match check document with
  | .error fault => .error (.mishap (.ofText fault))
  | .ok (.error fault) => .error (.lint (.unsound fault))
  | .ok (.ok version) => .ok version

def normalize (document : Value) : Except Failure (List Operation) :=
  (operations document).mapError .ofObstacle

def load (disk : Disk) (root : Text) : Step Value := do
  let file ← find disk root
  let document ← Step.ofExcept (parse disk file)
  let version ← Step.ofExcept (validate document)
  Step.note (.loaded version file)
  return document

end Spec

namespace Report

def ofDocument (specPath : Option Path) (document : Value) : Step Report := do
  let ops ← Step.ofExcept (Spec.normalize document)
  let version := ((document.entries?.bind fun es => Spec.field? es "openapi").bind Value.text?)
  let report := ofOperations specPath version ops
  Step.note (.evaluated ops.length report.summary)
  return report

/-- The report on a project. A project without a description is an error, unless that is allowed. -/
def ofProject (disk : Disk) (root : Text) (allowMissing : Bool) : Step Report := do
  match ← Spec.discover disk root with
  | none =>
    if allowMissing then
      Step.note (.skipping root)
      return skippedReport
    else Step.fail (.noSpec root)
  | some file =>
    let document ← Step.ofExcept (Spec.parse disk file)
    let _ ← Step.ofExcept (Spec.validate document)
    ofDocument (some file) document

end Report
end ExposureLint
