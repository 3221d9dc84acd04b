import ExposureLint.Document.Display
import ExposureLint.Text.Utf8

/-!
What can be wrong with a record that is made from a value of a document. A fault names the place in
the record, the rule that is broken and the value that was found there; the message of a rejection
lists the faults one after the other. A few faults end the reading at once and are told alone.
-/
namespace ExposureLint.Record

inductive Rule
  | missing
  | boolType
  | boolParsing
  | stringType
  | stringUnicode
  | listType
  | severity
  | extraForbidden
  | invalidKey
  | refused (reason : Text)
  | mappingType
deriving DecidableEq

def Rule.name : Rule → Text
  | .missing => "missing"
  | .boolType => "bool_type"
  | .boolParsing => "bool_parsing"
  | .stringType => "string_type"
  | .stringUnicode => "string_unicode"
  | .listType => "list_type"
  | .severity => "enum"
  | .extraForbidden => "extra_forbidden"
  | .invalidKey => "invalid_key"
  | .refused _ => "value_error"
  | .mappingType => "model_type"

def Rule.demand (model : Text) : Rule → Text
  | .missing => "Field required"
  | .boolType => "Input should be a valid boolean"
  | .boolParsing => "Input should be a valid boolean, unable to interpret input"
  | .stringType => "Input should be a valid string"
  | .stringUnicode =>
    "Input should be a valid string, unable to parse raw data as a unicode string"
  | .listType => "Input should be a valid list"
  | .severity => "Input should be 'block' or 'warn'"
  | .extraForbidden => "Extra inputs are not permitted"
  | .invalidKey => "Keys should be strings"
  | .refused reason => "Value error, " ++ reason
  | .mappingType => "Input should be a valid dictionary or instance of " ++ model

structure Fault where
  place : List Text
  rule : Rule
  input : Value

/-- A record of the kind `model` that cannot be made, and why. -/
structure Rejection where
  model : Text
  faults : List Fault

/-- Why a record cannot be made: for its faults, or since one of them cannot be told in writing. -/
inductive Refused
  | faulty (r : Rejection)
  | unwritable (fault : Utf8.Unwritable)

/-- A fault that ends the reading of a record of the kind `model`: a reason that cannot be written,
or a key that is no proper text. -/
def Fault.ending? (model : Text) (f : Fault) : Option Refused :=
  match f.rule with
  | .refused reason => (Utf8.unwritable? reason).map .unwritable
  | .stringUnicode => if f.place.isEmpty then some (.faulty ⟨model, [f]⟩) else none
  | _ => none

/-- What comes of the faults of a record, in the order in which they are found. -/
def Refused.ofFaults (model : Text) (faults : List Fault) : Refused :=
  (faults.findSome? (Fault.ending? model)).getD (.faulty ⟨model, faults⟩)

def shownWhole : Nat := 50

def takeBytes (limit : Nat) : Text → Text
  | [] => []
  | c :: rest =>
    let size := (Utf8.encodeOne c).length
    if size ≤ limit then c :: takeBytes (limit - size) rest else []

/-- A text of many bytes is shown by its start and its end. -/
def abridged (t : Text) : Text :=
  if (Utf8.encode t).length ≤ shownWhole then t
  else takeBytes 25 t ++ "..." ++ (takeBytes 24 t.reverse).reverse

variable [Host]

def inputText (v : Value) : Text :=
  match v.quoted? with
  | .ok t => abridged t
  | .error _ => "<unprintable " ++ v.kind ++ " object>"

def Rule.page (r : Rule) : Text := "https://errors.pydantic.dev/2.14/v/" ++ r.name

/-- A part of a place; one with a dot in it is set off, since dots stand between parts. -/
def placePart (t : Text) : Text :=
  if t.contains (CodePoint.ofChar '.') then "\x60" ++ t ++ "\x60" else t

def Fault.message (model : Text) (f : Fault) : Text :=
  let place : Text := if f.place.isEmpty then [] else Text.join "." (f.place.map placePart) ++ "\n"
  place ++ "  " ++ f.rule.demand model ++ " [type=" ++ f.rule.name ++ ", input_value="
    ++ inputText f.input ++ ", input_type=" ++ f.input.kind
    ++ "]\n    For further information visit " ++ f.rule.page

def Rejection.message (r : Rejection) : Text :=
  let count := Text.ofNat r.faults.length
  let heading : Text :=
    if r.faults.length == 1 then "1 validation error for " ++ r.model
    else count ++ " validation errors for " ++ r.model
  Text.join "\n" (heading :: r.faults.map (Fault.message r.model))

def Refused.message : Refused → Text
  | .faulty r => r.message
  | .unwritable fault => fault.message

end ExposureLint.Record
