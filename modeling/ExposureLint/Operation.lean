import ExposureLint.Record.Field

/-!
Operations: what can be done at one path of an interface by one method. `Method` is the closed list
of methods that documents may name; an operation itself keeps the text of its method, since records
from elsewhere may carry any.
-/
namespace ExposureLint

inductive Method
  | get
  | post
  | put
  | patch
  | delete
  | options
  | head
deriving DecidableEq

namespace Method

def all : List Method := [.get, .post, .put, .patch, .delete, .options, .head]

def key : Method → Text
  | .get => "get"
  | .post => "post"
  | .put => "put"
  | .patch => "patch"
  | .delete => "delete"
  | .options => "options"
  | .head => "head"

/-- The method as operations carry it, in upper case. -/
def verb (m : Method) : Text := m.key.upperAscii

def ofKey? (key : Text) : Option Method := all.find? fun m => m.key == key
def ofVerb? (verb : Text) : Option Method := all.find? fun m => m.verb == verb

def isWrite : Method → Bool
  | .post | .put | .patch | .delete => true
  | .get | .head | .options => false

end Method

/-- `security` are the names of the schemes that the operation asks for, empty when it asks for
none. -/
structure Operation where
  method : Text
  path : Text
  hasBody : Bool
  hasPathParams : Bool
  security : List Text
  isPublic : Bool
  reason : Option Text
deriving DecidableEq

namespace Operation

def isWrite (op : Operation) : Bool := ((Method.ofVerb? op.method).map Method.isWrite).getD false

def isRead (op : Operation) : Bool :=
  ((Method.ofVerb? op.method).map fun m => !m.isWrite).getD false

/-- An operation that is public on purpose counts as authenticated, with or without a reason. -/
def isAuthenticated (op : Operation) : Bool := !op.security.isEmpty || op.isPublic

/-- Whether callers supply data: a body or a part of the path. -/
def takesInput (op : Operation) : Bool := op.hasBody || op.hasPathParams

def modelName : Text := "NormalizedOperation"

/-- The operation in a record, where all but method and path may be left out. -/
def ofRecord (record : Value) : Except Record.Refused Operation :=
  Record.finish modelName record
    ((((((((Record.Collected.pure Operation.mk).both
      (Record.required record "method" Record.readText)).both
      (Record.required record "path" Record.readText)).both
      (Record.optional record "has_request_body" false Record.readBool)).both
      (Record.optional record "has_path_params" false Record.readBool)).both
      (Record.textList record "security")).both
      (Record.optional record "is_public_override" false Record.readBool)).both
      (Record.optional record "public_reason" none Record.readOptionalText))

def toRecord (op : Operation) : Value := .map [
  (.text "method", .text op.method),
  (.text "path", .text op.path),
  (.text "has_request_body", .bool op.hasBody),
  (.text "has_path_params", .bool op.hasPathParams),
  (.text "security", .list (op.security.map Value.text)),
  (.text "is_public_override", .bool op.isPublic),
  (.text "public_reason", (op.reason.map Value.text).getD .null)]

end Operation
end ExposureLint
