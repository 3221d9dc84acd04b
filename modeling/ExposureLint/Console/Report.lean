import ExposureLint.Console.Presentation
import ExposureLint.Report

/-!
What is said about reports and operations. A report as a value is all there is on the streams; in
the other renderings the findings are the result, and the verdict and the counts are remarks.
-/
namespace ExposureLint

namespace Finding

def headers : List Text := ["Severity", "Method", "Route", "Rule", "Message"]

def row (f : Finding) : List Text := [f.severity.name, f.method, f.route, f.rule, f.message]

def table (fs : List Finding) : Table :=
  ⟨"Findings (" ++ Text.ofNat fs.length ++ ")", headers, fs.map row⟩

end Finding

namespace Operation

def headers : List Text := ["Method", "Path", "Security", "Public", "Reason"]

def schemesCell (op : Operation) : Text :=
  let schemes := Text.join ", " op.security
  if schemes.isEmpty then "-" else schemes

def row (op : Operation) : List Text :=
  [op.method, op.path, op.schemesCell, if op.isPublic then "yes" else [], op.reason.getD []]

def table (ops : List Operation) : Table :=
  ⟨"Routes (" ++ Text.ofNat ops.length ++ ")", headers, ops.map row⟩

end Operation

namespace Report

def toValue (strict : Bool) (r : Report) : Value :=
  .map (r.toEntries ++ [(.text "blocking", .bool (r.isBlocking strict))])

def verdict (strict : Bool) (r : Report) : Emission :=
  if r.isBlocking strict then .remark .failure "✘ Safety checks failed"
  else if r.summary.warn != 0 then .remark .warning "Safety checks completed with warnings"
  else .remark .success "✔ Safety checks passed"

def counts (r : Report) : List Emission := [
  .remark .info ("Routes analyzed: " ++ Text.ofNat r.operations.length),
  .remark .info ("Protected routes: " ++ Text.ofNat r.protectedRoutes),
  .remark .info ("Public routes: " ++ Text.ofNat r.publicRoutes),
  .remark .info ("Blocking issues: " ++ Text.ofNat r.summary.block
    ++ "  Warnings: " ++ Text.ofNat r.summary.warn)]

/-- What the verdict means, and what can be done about it. -/
def advice (strict : Bool) (r : Report) : List Emission :=
  if r.isBlocking strict then
    (if r.summary.block != 0 then [
      .remark .suggestion "Declare authentication in the OpenAPI document",
      .remark .suggestion
        "OR explicitly mark the route as public with a reason (x-public + x-reason)"]
    else [.remark .suggestion "Strict mode treats warnings as blocking"])
    ++ [.remark .info "Deployment would be blocked."]
  else if r.summary.warn != 0 then [.remark .info "Deployment would be allowed."]
  else [.remark .info "No blocking issues detected."]

def emissions (rendering : Rendering) (strict : Bool) (r : Report) : List Emission :=
  if rendering == .json then [.value (r.toValue strict)]
  else if r.skipped then [.remark .warning "No OpenAPI spec found. Skipping safety checks."]
  else
    (if r.findings.isEmpty then [] else [.table (Finding.table r.findings)])
      ++ [r.verdict strict] ++ r.counts ++ r.advice strict

end Report
end ExposureLint
