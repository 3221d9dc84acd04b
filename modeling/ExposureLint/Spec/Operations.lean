import ExposureLint.Document.Display
import ExposureLint.Operation
import ExposureLint.Text.Sorted
import ExposureLint.Text.Upper

/-!
The operations of a document. Every entry of a path whose key names a method in any case, and whose
value is a mapping, gives one operation; all else is passed over. They are sorted by path and
method, and those with the same path and method keep the order of the document.
-/
namespace ExposureLint.Spec

variable [Host]

inductive Obstacle
  | notMapping (kind : Text)
  | text (fault : Value.Fault)

def field? (entries : List (Scalar × Value)) (name : Text) : Option Value :=
  Value.find? (.text name) entries

/-- What an operation of a document says, as far as the rules look at it. A field that is there with
the value null is not the same as one that is not there. -/
structure RawOperation where
  body : Option Value
  parameters : Option Value
  security : Option Value
  isPublic : Option Value
  reason : Option Value

namespace RawOperation

def ofEntries (entries : List (Scalar × Value)) : RawOperation :=
  ⟨field? entries "requestBody", field? entries "parameters", field? entries "security",
    field? entries "x-public", field? entries "x-reason"⟩

/-- An operation must be a mapping. -/
def ofValue (v : Value) : Except Record.Refused RawOperation :=
  match v.entries? with
  | some entries => .ok (ofEntries entries)
  | none => .error (.faulty ⟨"OperationObject", [⟨[], .mappingType, v⟩]⟩)

def isPathParameter (v : Value) : Bool :=
  match (v.entries?.getD []) |> (field? · "in") with
  | some (.scalar (.text t)) => t == Text.ofString "path"
  | _ => false

def hasBraces (path : Text) : Bool :=
  path.contains (CodePoint.ofChar '\x7b') && path.contains (CodePoint.ofChar '\x7d')

/-- Whether the path is a template, or a parameter of the operation is part of it. -/
def hasPathParams (path : Text) (op : RawOperation) : Bool :=
  hasBraces path || (((op.parameters.bind Value.items?).getD []).any isPathParameter)

/-- The requirements that count: those of the operation if it has any field for them, whatever the
value, and the default ones otherwise. -/
def requirements (default : Value) (op : RawOperation) : Value :=
  op.security.getD default

/-- Only the truth value itself makes an operation public. -/
def isPublicOverride (op : RawOperation) : Bool :=
  match op.isPublic with
  | some (.scalar (.bool b)) => b
  | _ => false

/-- The text of the reason, kept for public operations only, and not when it is nothing. -/
def publicReason (op : RawOperation) : Except Value.Fault (Option Text) :=
  match op.reason with
  | some v =>
    if op.isPublicOverride && !v.isNothing then some <$> v.display? else .ok none
  | none => .ok none

end RawOperation

/-- The names of the schemes in all requirements, in order and with repetitions. -/
def schemeNames (requirements : Value) : Except Numeral.Fault (List Text) :=
  ((requirements.items?.getD []).flatMap fun r => (r.entries?.getD []).map (·.1)).mapM
    Scalar.display?

/-- The requirements of the document as a whole, none unless it lists them. -/
def defaultRequirements (entries : List (Scalar × Value)) : Value :=
  match field? entries "security" with
  | some v => if v.items?.isSome then v else .list []
  | none => .list []

/-- A name is a scalar, and its text can only lack for the digits of an integer. -/
def ofName {α : Type} (r : Except Numeral.Fault α) : Except Obstacle α :=
  r.mapError fun fault => .text (.number fault)

def operation (default : Value) (path method : Text) (raw : RawOperation) :
    Except Obstacle Operation := do
  let reason ← raw.publicReason.mapError .text
  let security ← ofName (schemeNames (raw.requirements default))
  return ⟨method.upper, path, raw.body.isSome, raw.hasPathParams path, security,
    raw.isPublicOverride, reason⟩

def methodOf (key : Scalar) : Except Numeral.Fault (Option Text) := do
  let t ← key.display?
  return if (Method.ofKey? (Text.lower t)).isSome then some t else none

def entryOperation (default : Value) (path : Scalar) (entry : Scalar × Value) :
    Except Obstacle (Option Operation) := do
  match ← ofName (methodOf entry.1), entry.2.entries? with
  | some method, some fields =>
    let path ← ofName path.display?
    some <$> operation default path method (RawOperation.ofEntries fields)
  | _, _ => return none

def pathOperations (default : Value) (entry : Scalar × Value) :
    Except Obstacle (List Operation) := do
  let found ← (entry.2.entries?.getD []).mapM (entryOperation default entry.1)
  return found.filterMap id

def operationsInOrder (entries : List (Scalar × Value)) : Except Obstacle (List Operation) := do
  let paths := ((field? entries "paths").bind Value.entries?).getD []
  let found ← paths.mapM (pathOperations (defaultRequirements entries))
  return found.flatten

def operationKey (op : Operation) : Text × Text := (op.path, op.method)

def operations (document : Value) : Except Obstacle (List Operation) :=
  match document.entries? with
  | none => .error (.notMapping document.kind)
  | some entries => sortBy operationKey <$> operationsInOrder entries

end ExposureLint.Spec
