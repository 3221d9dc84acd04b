import ExposureLint.Operation
import ExposureLint.Text.Sorted

/-!
The rules about exposed operations, and what they find. A rule looks at one operation alone, so the
findings about several operations are those about each of them, sorted by route and method.
-/
namespace ExposureLint

/-- A blocking finding stops a deployment; a warning does not, unless asked to. -/
inductive Severity
  | block
  | warn
deriving DecidableEq

namespace Severity

def name : Severity → Text
  | .block => "block"
  | .warn => "warn"

def ofName? (t : Text) : Option Severity := [block, warn].find? fun s => s.name == t

end Severity

structure Finding where
  route : Text
  method : Text
  severity : Severity
  message : Text
  rule : Text
deriving DecidableEq

inductive Rule
  | unauthenticatedWrite
  | publicWithoutReason
  | unauthenticatedRead
deriving DecidableEq

namespace Rule

def all : List Rule := [.unauthenticatedWrite, .publicWithoutReason, .unauthenticatedRead]

def id : Rule → Text
  | .unauthenticatedWrite => "unauthenticated-write"
  | .publicWithoutReason => "public-without-reason"
  | .unauthenticatedRead => "unauthenticated-read"

def severity : Rule → Severity
  | .unauthenticatedWrite => .block
  | .publicWithoutReason | .unauthenticatedRead => .warn

/-- Whether an operation breaks a rule. A read is only looked at where its path has parameters. -/
def isBroken (op : Operation) : Rule → Bool
  | .unauthenticatedWrite => op.isWrite && op.takesInput && !op.isAuthenticated
  | .publicWithoutReason => op.isPublic && op.reason.isNone
  | .unauthenticatedRead => op.isRead && !op.isAuthenticated && op.hasPathParams

def message (op : Operation) : Rule → Text
  | .unauthenticatedWrite =>
    "Write operation " ++ op.method ++ " " ++ op.path
      ++ " must declare authentication. Add a security scheme or mark it public with "
      ++ "x-public: true and a documented x-reason."
  | .publicWithoutReason =>
    "Public operation " ++ op.method ++ " " ++ op.path
      ++ " should include x-reason to document why authentication is not required."
  | .unauthenticatedRead =>
    "Read operation " ++ op.method ++ " " ++ op.path
      ++ " with path parameters has no authentication. Consider whether it exposes sensitive data, "
      ++ "and declare a security scheme or mark it public with x-public and x-reason."

def check (op : Operation) (r : Rule) : Option Finding :=
  if r.isBroken op then some ⟨op.path, op.method, r.severity, r.message op, r.id⟩ else none

end Rule

namespace Finding

def ofOperation (op : Operation) : List Finding := Rule.all.filterMap (Rule.check op)

def sortKey (f : Finding) : Text × Text := (f.route, f.method)

/-- The findings about operations; those about one route and method keep their order. -/
def ofOperations (ops : List Operation) : List Finding :=
  sortBy sortKey (ops.flatMap ofOperation)

def readSeverity (v : Value) : Record.Reading Severity :=
  match v with
  | .scalar (.text t) =>
    match Severity.ofName? t with
    | some s => .ok s
    | none => .error (if t.isWellFormed then .severity else .stringUnicode)
  | _ => .error .severity

/-- The finding in a record, where only the rule may be left out. -/
def ofRecord (record : Value) : Except Record.Refused Finding :=
  Record.finish "Finding" record
    ((((((Record.Collected.pure Finding.mk).both
      (Record.required record "route" Record.readText)).both
      (Record.required record "method" Record.readText)).both
      (Record.required record "severity" readSeverity)).both
      (Record.required record "message" Record.readText)).both
      (Record.optional record "rule" [] Record.readText))

def toRecord (f : Finding) : Value := .map [
  (.text "route", .text f.route),
  (.text "method", .text f.method),
  (.text "severity", .text f.severity.name),
  (.text "message", .text f.message),
  (.text "rule", .text f.rule)]

end Finding

structure Summary where
  block : Nat
  warn : Nat
deriving DecidableEq

namespace Summary

def empty : Summary := ⟨0, 0⟩

def ofSeverities (found : List Severity) : Summary :=
  ⟨found.count .block, found.count .warn⟩

def ofFindings (fs : List Finding) : Summary := ofSeverities (fs.map (·.severity))

def total (s : Summary) : Nat := s.block + s.warn

def toRecord (s : Summary) : Value := .map [
  (.text "block", .scalar (.int s.block)),
  (.text "warn", .scalar (.int s.warn))]

end Summary

/-- Safe to deploy: nothing that was found is blocking. -/
def isSafe (found : List Severity) : Bool := !found.contains .block

end ExposureLint
