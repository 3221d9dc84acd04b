import Mathlib
import ExposureLint.Proofs.Normalization

/-!
The verdict on a document, read off the document alone. Blocking findings count the unprotected
writes, warnings the public operations without a reason and the unprotected reads.
-/
namespace ExposureLint

open Spec

namespace Spec.Declaration
variable (document : Value) (d : Declaration)

/-- Open to everyone without being public on purpose: no requirement in force names a scheme. -/
def isOpen : Bool :=
  !d.isPublic && (d.requirements document).all fun r => (entriesOf (some r)).isEmpty

def isParameterised : Bool :=
  (match d.path.display? with
    | .ok path => RawOperation.hasBraces path
    | .error _ => false) || d.hasPathParameter

/-- A write that anyone may make with data of their own. -/
def isUnprotectedWrite : Bool :=
  d.isOpen document && d.method.isWrite && (d.hasBody || d.isParameterised)

/-- A read by which anyone may look up what a path names. -/
def isUnprotectedRead : Bool :=
  d.isOpen document && !d.method.isWrite && d.isParameterised

/-- Public on purpose, with no reason that counts. -/
def isUnexplained : Bool :=
  d.isPublic && ((field? d.fields "x-reason").all Value.isNothing)

end Spec.Declaration

namespace Finding

theorem count_block_ofOperation (op : Operation) :
    ((ofOperation op).map (·.severity)).count .block
      = if Rule.unauthenticatedWrite.isBroken op then 1 else 0 := by
  simp only [ofOperation, Rule.all, Rule.check, Rule.severity, List.filterMap_cons,
    List.filterMap_nil]
  cases Rule.unauthenticatedWrite.isBroken op <;> cases Rule.publicWithoutReason.isBroken op
    <;> cases Rule.unauthenticatedRead.isBroken op <;> rfl

/-- A public operation counts as authenticated, so no operation gives two warnings. -/
theorem count_warn_ofOperation (op : Operation) :
    ((ofOperation op).map (·.severity)).count .warn
      = if Rule.publicWithoutReason.isBroken op || Rule.unauthenticatedRead.isBroken op then 1
        else 0 := by
  have apart : ¬ (Rule.publicWithoutReason.isBroken op = true
      ∧ Rule.unauthenticatedRead.isBroken op = true) := by
    simp only [Rule.isBroken, Operation.isAuthenticated, Bool.and_eq_true]
    rintro ⟨⟨isPublic, -⟩, ⟨-, open'⟩, -⟩
    simp [isPublic] at open'
  simp only [ofOperation, Rule.all, Rule.check, Rule.severity, List.filterMap_cons,
    List.filterMap_nil]
  cases unexplained : Rule.publicWithoutReason.isBroken op <;>
    cases read : Rule.unauthenticatedRead.isBroken op
  case true.true => exact absurd ⟨unexplained, read⟩ apart
  all_goals cases Rule.unauthenticatedWrite.isBroken op <;> rfl

theorem count_severity_ofOperations {s : Severity} {p : Operation → Bool}
    (each : ∀ op, ((ofOperation op).map (·.severity)).count s = if p op then 1 else 0)
    (ops : List Operation) : ((ofOperations ops).map (·.severity)).count s = ops.countP p := by
  have sorted : ((ofOperations ops).map (·.severity)).count s
      = ((ops.flatMap ofOperation).map (·.severity)).count s :=
    ((sortBy_perm sortKey (ops.flatMap ofOperation)).map _).count_eq s
  rw [sorted]
  clear sorted
  induction ops with
  | nil => rfl
  | cons op rest ih =>
    rw [List.flatMap_cons, List.map_append, List.count_append, each, ih, List.countP_cons]
    omega

end Finding

namespace Spec.Declaration
variable [Host] {document : Value} {d : Declaration} {op : Operation}

omit [Host] in
theorem schemes_isEmpty : (d.schemes document).isEmpty
    = (d.requirements document).all fun r => (entriesOf (some r)).isEmpty := by
  rw [Bool.eq_iff_iff]
  simp [schemes]

theorem Describes.isAuthenticated (describes : d.Describes document op) :
    (!op.isAuthenticated) = d.isOpen document := by
  have security : op.security.isEmpty = (d.schemes document).isEmpty := by
    rw [Bool.eq_iff_iff, List.isEmpty_iff_length_eq_zero, List.isEmpty_iff_length_eq_zero,
      describes.security.length_eq]
  rw [Operation.isAuthenticated, isOpen, ← schemes_isEmpty, security, describes.isPublic]
  cases d.isPublic <;> cases (d.schemes document).isEmpty <;> rfl

theorem Describes.isWrite (describes : d.Describes document op) :
    op.isWrite = d.method.isWrite ∧ op.isRead = !d.method.isWrite := by
  simp [Operation.isWrite, Operation.isRead, describes.method_eq_verb, Method.ofVerb?_verb]

theorem Describes.isParameterised (describes : d.Describes document op) :
    op.hasPathParams = d.isParameterised := by
  rw [describes.hasPathParams, Declaration.isParameterised, describes.path]

theorem Describes.reason_isNone (describes : d.Describes document op) :
    op.reason.isNone = d.reason?.isNone := by
  have kept := describes.reason
  cases given : d.reason? with
  | none =>
    rw [given] at kept
    rw [← Except.ok.inj kept]
    rfl
  | some v =>
    rw [given] at kept
    obtain ⟨t, -, same⟩ := map_eq_ok_iff.mp kept
    rw [← same]
    rfl

theorem Describes.isBroken_unauthenticatedWrite (describes : d.Describes document op) :
    Rule.unauthenticatedWrite.isBroken op = d.isUnprotectedWrite document := by
  simp only [Rule.isBroken, isUnprotectedWrite, describes.isAuthenticated, describes.isWrite,
    Operation.takesInput, describes.hasBody, describes.isParameterised]
  cases d.method.isWrite <;> cases d.isOpen document <;> simp

theorem Describes.isBroken_publicWithoutReason (describes : d.Describes document op) :
    Rule.publicWithoutReason.isBroken op = d.isUnexplained := by
  simp only [Rule.isBroken, describes.isPublic, describes.reason_isNone, isUnexplained, reason?]
  cases d.isPublic <;> cases field? d.fields "x-reason" <;> simp

theorem Describes.isBroken_warning (describes : d.Describes document op) :
    (Rule.publicWithoutReason.isBroken op || Rule.unauthenticatedRead.isBroken op)
      = (d.isUnexplained || d.isUnprotectedRead document) := by
  rw [describes.isBroken_publicWithoutReason]
  simp only [Rule.isBroken, isUnprotectedRead, describes.isAuthenticated, describes.isWrite,
    describes.isParameterised]
  cases d.method.isWrite <;> cases d.isOpen document <;> simp

/-- What each record has just when its declaration does is as frequent among both. -/
theorem countP_eq {p : Declaration → Bool} {q : Operation → Bool}
    (same : ∀ d op, d.Describes document op → q op = p d) {ds : List Declaration}
    {records : List Operation} (described : List.Forall₂ (Describes document) ds records) :
    records.countP q = ds.countP p := by
  induction described with
  | nil => rfl
  | cons here _ ih => rw [List.countP_cons, List.countP_cons, ih, same _ _ here]

end Spec.Declaration

namespace Report
variable {specPath : Option Path} {document : Value} {r : Report}

theorem ofDocument_error [Host] {e : Failure} (failed : normalize document = .error e) :
    (ofDocument specPath document).outcome.1 = .error e := by
  simp only [ofDocument, failed]
  rfl

theorem ofDocument_eq_ok_iff [Host] :
    (ofDocument specPath document).outcome.1 = .ok r ↔
      ∃ ops, normalize document = .ok ops ∧ r = ofOperations specPath
        ((document.entries?.bind fun es => field? es "openapi").bind Value.text?) ops := by
  cases listed : normalize document with
  | error e => simp [ofDocument_error listed]
  | ok ops =>
    have made : (ofDocument specPath document).outcome.1 = .ok (ofOperations specPath
        ((document.entries?.bind fun es => field? es "openapi").bind Value.text?) ops) := by
      simp only [ofDocument, listed]
      rfl
    simp [made, eq_comm]

/-- The verdict on a document is the one its declarations call for: the blocking findings are as
many as the unprotected writes, the warnings as many as the unexplained public operations and the
unprotected reads together, and the document is safe when it declares no unprotected write. -/
theorem verdict_exact [Host] (built : (ofDocument specPath document).outcome.1 = .ok r) :
    r.summary.block
        = (Declaration.all document).countP (Declaration.isUnprotectedWrite document)
      ∧ r.summary.warn = (Declaration.all document).countP
          (fun d => d.isUnexplained || d.isUnprotectedRead document)
      ∧ (r.safe = true ↔ ∀ d ∈ Declaration.all document, d.isUnprotectedWrite document = false) := by
  obtain ⟨ops, listed, made⟩ := ofDocument_eq_ok_iff.mp built
  obtain ⟨-, -, records, described, rfl⟩ := normalize_eq_ok_iff.mp listed
  have reordered := sortBy_perm operationKey records
  have block : r.summary.block
      = (Declaration.all document).countP (Declaration.isUnprotectedWrite document) := by
    rw [← Declaration.countP_eq (fun d op describes => describes.isBroken_unauthenticatedWrite)
      described, ← reordered.countP_eq, made]
    exact Finding.count_severity_ofOperations Finding.count_block_ofOperation _
  have warn : r.summary.warn = (Declaration.all document).countP
      (fun d => d.isUnexplained || d.isUnprotectedRead document) := by
    rw [← Declaration.countP_eq (fun d op describes => describes.isBroken_warning) described,
      ← reordered.countP_eq, made]
    exact Finding.count_severity_ofOperations Finding.count_warn_ofOperation _
  have safe : r.safe = true ↔ r.summary.block = 0 := by
    rw [made]
    simp [ofOperations, isSafe, Summary.ofFindings, Summary.ofSeverities, List.count_eq_zero]
  refine ⟨block, warn, ?_⟩
  rw [safe, block, List.countP_eq_zero]
  simp

theorem sample_verdict_exact :
    ∃ r, (ofDocument none sampleDocument).outcome.1 = .ok r
      ∧ r.summary.block
          = (Declaration.all sampleDocument).countP (Declaration.isUnprotectedWrite sampleDocument)
      ∧ r.summary.warn = (Declaration.all sampleDocument).countP
          (fun d => d.isUnexplained || d.isUnprotectedRead sampleDocument)
      ∧ (r.safe = true
          ↔ ∀ d ∈ Declaration.all sampleDocument, d.isUnprotectedWrite sampleDocument = false) := by
  have built : (ofDocument none sampleDocument).outcome.1
      = .ok (ofOperations none (some "3.0.0") sampleOperations) := rfl
  exact ⟨_, built, verdict_exact built⟩

end Report
end ExposureLint
