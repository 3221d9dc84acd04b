import ExposureLint.Document.Display

/-!
Whether a document is an interface description of version 3. The checks run in a fixed order, and
the first that fails is the one reported.
-/
namespace ExposureLint.Spec

variable [Host]

inductive Unsound
  | notMapping (kind : Option Text)
  | noVersion (swagger : Option Text)
  | versionKind (kind : Text)
  | versionTwo (version : Text)
  | otherVersion (version : Text)
  | noInfo
  | noPaths
deriving DecidableEq

def Unsound.reason : Unsound → Text
  | .notMapping kind =>
    "expected a mapping at the top level, got " ++ kind.getD "empty document" ++ "."
  | .noVersion swagger =>
    let found : Text := match swagger with
      | some t => " Found 'swagger: " ++ t ++ "'; OpenAPI v2 / Swagger 2.0 is not supported."
      | none => []
    "missing required top-level field 'openapi'." ++ found
  | .versionKind kind => "'openapi' field must be a string, got " ++ kind ++ "."
  | .versionTwo version =>
    "OpenAPI v2 / Swagger 2.0 is not supported. Found version '" ++ version
      ++ "', but OpenAPI v3.x is required."
  | .otherVersion version =>
    "unsupported version '" ++ version ++ "'. OpenAPI v3.x is required."
  | .noInfo => "missing required top-level field 'info'."
  | .noPaths => "missing required top-level field 'paths'."

def Unsound.message (u : Unsound) : Text := "Invalid OpenAPI specification: " ++ u.reason

/-- A version that is empty, zero or false counts as none. -/
def isNoVersion : Option Value → Bool
  | none => true
  | some (.scalar (.bytes _)) => false
  | some (.scalar s) => s.isNothing
  | some _ => false

def versionFault (version : Text) : Option Unsound :=
  if version.startsWith "3." then none
  else if version.startsWith "2" then some (.versionTwo version)
  else some (.otherVersion version)

/-- Whether a field is there and is not null. -/
def isGiven (entries : List (Scalar × Value)) (name : Text) : Bool :=
  match Value.find? (.text name) entries with
  | none => false
  | some v => !v.isNull

/-- The fault of a document without a version, which may name an older one under another key. That
one is shown by its text. -/
def noVersion (entries : List (Scalar × Value)) : Except Value.Fault Unsound :=
  match Value.find? (.text "swagger") entries with
  | none => .ok (.noVersion none)
  | some v => (fun t => .noVersion (some t)) <$> v.display?

/-- The version of a sound document, or what is wrong with the document. The text of what is under
the older key may not exist. -/
def check (document : Value) : Except Value.Fault (Except Unsound Text) :=
  match document.entries? with
  | none => .ok (.error (.notMapping (if document.isNull then none else some document.kind)))
  | some entries =>
    match Value.find? (.text "openapi") entries with
    | some (.scalar (.text version)) =>
      if version.isEmpty then .error <$> noVersion entries
      else match versionFault version with
        | some u => .ok (.error u)
        | none =>
          if !isGiven entries "info" then .ok (.error .noInfo)
          else if !isGiven entries "paths" then .ok (.error .noPaths)
          else .ok (.ok version)
    | version? =>
      if isNoVersion version? then .error <$> noVersion entries
      else .ok (.error (.versionKind ((version?.map Value.kind).getD [])))

end ExposureLint.Spec
