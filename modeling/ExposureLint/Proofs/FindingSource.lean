import Mathlib
import ExposureLint.Proofs.RecordTelling
import ExposureLint.Proofs.SortedRecords

/-!
Where findings come from. No operation breaks two rules, and what breaks one is a public route. So
the findings of a report are one for each operation that breaks a rule, in the order of the
operations, and they are no more than its public routes.
-/
namespace ExposureLint

theorem Operation.isWrite_of_isRead {op : Operation} (reads : op.isRead = true) :
    op.isWrite = false := by
  unfold isRead at reads
  unfold isWrite
  cases known : Method.ofVerb? op.method with
  | none => rfl
  | some m =>
    rw [known] at reads
    simpa using reads

namespace Rule
variable {op : Operation} {rule : Rule}

/-- The only rule that an operation may break. -/
def applying (op : Operation) : Rule :=
  if op.isAuthenticated then .publicWithoutReason
  else if op.isWrite then .unauthenticatedWrite
  else .unauthenticatedRead

theorem eq_applying_of_isBroken (broken : rule.isBroken op = true) : rule = applying op := by
  cases rule with
  | unauthenticatedWrite =>
    simp only [isBroken, Bool.and_eq_true, Bool.not_eq_true'] at broken
    simp [applying, broken]
  | publicWithoutReason =>
    -- an operation that is public on purpose counts as authenticated
    have authenticated : op.isAuthenticated = true := by
      simp only [isBroken, Bool.and_eq_true] at broken
      simp [Operation.isAuthenticated, broken]
    simp [applying, authenticated]
  | unauthenticatedRead =>
    simp only [isBroken, Bool.and_eq_true, Bool.not_eq_true'] at broken
    have unwritten := Operation.isWrite_of_isRead broken.1.1
    simp [applying, broken, unwritten]

end Rule

namespace Finding
variable {op : Operation}

/-- What is found about an operation is at most what the one rule finds that it may break. -/
theorem ofOperation_eq (op : Operation) :
    ofOperation op = ((Rule.applying op).check op).toList := by
  have each (rule : Rule) : rule.check op
      = if rule = Rule.applying op then (Rule.applying op).check op else none := by
    split
    · rename_i same
      rw [same]
    · rename_i other
      exact if_neg fun broken => other (Rule.eq_applying_of_isBroken broken)
  generalize (Rule.applying op).check op = found at each
  simp only [ofOperation, Rule.all, List.filterMap_cons, List.filterMap_nil, each]
  cases Rule.applying op <;> cases found <;> rfl

def isDue (op : Operation) : Bool := (Rule.applying op).isBroken op

theorem length_ofOperation (op : Operation) :
    (ofOperation op).length = if isDue op then 1 else 0 := by
  rw [ofOperation_eq, Rule.check, isDue]
  split <;> rfl

theorem length_flatMap_ofOperation (ops : List Operation) :
    (ops.flatMap ofOperation).length = ops.countP isDue := by
  induction ops with
  | nil => rfl
  | cons op rest ih =>
    rw [List.flatMap_cons, List.length_append, length_ofOperation, ih, List.countP_cons, add_comm]

theorem ofOperation_of_isProtected (asked : Report.isProtected op = true) :
    ofOperation op = [] := by
  have kept : isDue op = false := by
    cases broken : isDue op with
    | false => rfl
    | true => cases asked.symm.trans (Rule.isProtected_of_isBroken broken)
  rw [List.eq_nil_iff_length_eq_zero, length_ofOperation, kept]
  rfl

end Finding

open Spec

namespace Report
variable {specPath : Option Path} {document : Value} {r : Report}

/-- The findings of a report are those about its operations, one operation after the other: putting
them in order changes nothing. An operation has at most one, about its own path and method, and it
has one only where it is a public route. -/
theorem findings_follow_operations [Host]
    (built : (ofDocument specPath document).outcome.1 = .ok r) :
    r.findings = r.operations.flatMap Finding.ofOperation
      ∧ Finding.ofOperations r.operations = r.operations.flatMap Finding.ofOperation
      ∧ (∀ op ∈ r.operations, (Finding.ofOperation op).length ≤ 1)
      ∧ (∀ op ∈ r.operations, ∀ f ∈ Finding.ofOperation op,
          f.route = op.path ∧ f.method = op.method ∧ isProtected op = false)
      ∧ (∀ op ∈ r.operations, isProtected op = true → Finding.ofOperation op = [])
      ∧ r.findings.length ≤ r.publicRoutes
      ∧ r.publicRoutes ≤ r.operations.length := by
  have found := findings_eq_flatMap built
  have sorted : r.findings = Finding.ofOperations r.operations :=
    (IsReturned.findings_eq (.inr ⟨specPath, document, built⟩)).1
  have counted : r.findings.length ≤ r.publicRoutes := by
    rw [found, Finding.length_flatMap_ofOperation]
    exact countP_le_publicRoutes fun op broken => Rule.isProtected_of_isBroken broken
  refine ⟨found, sorted.symm.trans found, fun op _ => ?_, fun op _ f here => ?_, fun op _ => ?_,
    counted, List.countP_le_length⟩
  · rw [Finding.length_ofOperation]
    split <;> decide
  · have key := Finding.sortKey_of_mem here
    obtain ⟨route, method⟩ := Prod.mk.inj key
    refine ⟨route, method, Bool.eq_false_iff.mpr fun asked => ?_⟩
    rw [Finding.ofOperation_of_isProtected asked] at here
    exact List.not_mem_nil here
  · exact Finding.ofOperation_of_isProtected

theorem sample_findings_follow :
    ∃ r, (ofDocument none sampleDocument).outcome.1 = .ok r
      ∧ r.findings = r.operations.flatMap Finding.ofOperation
      ∧ r.findings.length ≤ r.publicRoutes := by
  have built : (ofDocument none sampleDocument).outcome.1
      = .ok (ofOperations none (some "3.0.0") sampleOperations) := rfl
  obtain ⟨follow, -, -, -, -, counted, -⟩ := findings_follow_operations built
  exact ⟨_, built, follow, counted⟩

end Report
end ExposureLint
