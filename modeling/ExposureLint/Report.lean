import ExposureLint.Finding
import ExposureLint.Project.Path

/-!
The outcome of looking at one project: its operations, what was found about them, and the verdict.
-/
namespace ExposureLint

/-- A skipped report stands for a project without a description. -/
structure Report where
  specPath : Option Path
  version : Option Text
  operations : List Operation
  findings : List Finding
  summary : Summary
  safe : Bool
  skipped : Bool
deriving DecidableEq

namespace Report

def skippedReport : Report := ⟨none, none, [], [], .empty, true, true⟩

def ofOperations (specPath : Option Path) (version : Option Text) (ops : List Operation) :
    Report :=
  let found := Finding.ofOperations ops
  ⟨specPath, version, ops, found, .ofFindings found, isSafe (found.map (·.severity)), false⟩

/-- Whether an operation asks for a scheme and is not public. -/
def isProtected (op : Operation) : Bool := !op.security.isEmpty && !op.isPublic

def protectedRoutes (r : Report) : Nat := r.operations.countP isProtected
def publicRoutes (r : Report) : Nat := r.operations.countP fun op => !isProtected op

/-- Whether a deployment must stop; strictly, at any finding. -/
def isBlocking (strict : Bool) (r : Report) : Bool :=
  if strict then !r.findings.isEmpty else !r.safe

def toEntries (r : Report) : List (Scalar × Value) := [
  (.text "spec_path", (r.specPath.map fun p => Value.text p.text).getD .null),
  (.text "openapi_version", (r.version.map Value.text).getD .null),
  (.text "operations", .list (r.operations.map Operation.toRecord)),
  (.text "findings", .list (r.findings.map Finding.toRecord)),
  (.text "summary", r.summary.toRecord),
  (.text "safe", .bool r.safe),
  (.text "skipped", .bool r.skipped),
  (.text "protected_routes", .scalar (.int r.protectedRoutes)),
  (.text "public_routes", .scalar (.int r.publicRoutes))]

end Report
end ExposureLint
