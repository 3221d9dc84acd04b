import Mathlib
import ExposureLint.Proofs.Authentication
import ExposureLint.Proofs.SortedRecords

/-!
More default authentication never hurts. Where a document only exchanges its default requirements,
and not some schemes for none, it may lose findings but gains none, and the operations that have a
field for requirements stay as they are.
-/
namespace ExposureLint

namespace Spec

variable {document other : Value}

namespace Declaration
variable {d : Declaration} {op op' : Operation}

/-- Whether the operation has a field for requirements, whatever the value. -/
def hasOwnSecurity (d : Declaration) : Bool := (field? d.fields "security").isSome

theorem schemes_of_own (own : d.hasOwnSecurity = true) : d.schemes document = d.schemes other := by
  obtain ⟨v, given⟩ := Option.isSome_iff_exists.mp own
  simp only [schemes, requirements, given]

theorem schemes_of_default (silent : d.hasOwnSecurity = false) :
    d.schemes document = schemesIn (defaults document) := by
  have absent : field? d.fields "security" = none := by simpa [hasOwnSecurity] using silent
  simp only [schemes, requirements, absent, schemesIn, defaults]

theorem Describes.security_eq_nil_iff [Host] (describes : d.Describes document op) :
    op.security = [] ↔ d.schemes document = [] := by
  rw [← List.length_eq_zero_iff, ← List.length_eq_zero_iff, describes.security.length_eq]

theorem Describes.eq_of_own [Host] (own : d.hasOwnSecurity = true)
    (describes : d.Describes document op) (again : d.Describes other op') : op = op' := by
  have same : d.schemes other = d.schemes document := schemes_of_own own
  have security := again.security
  rw [same] at security
  exact describes.unique ⟨again.path, again.method, again.hasBody, again.hasPathParams, security,
    again.isPublic, again.reason⟩

theorem Describes.findings_sublist [Host]
    (kept : schemesIn (defaults document) ≠ [] → schemesIn (defaults other) ≠ [])
    (describes : d.Describes document op) (again : d.Describes other op') :
    (Finding.ofOperation op').Sublist (Finding.ofOperation op) := by
  cases own : d.hasOwnSecurity with
  | true => rw [describes.eq_of_own own again]
  | false =>
    have more : op.security ≠ [] → op'.security ≠ [] := by
      rw [Ne, Ne, describes.security_eq_nil_iff, again.security_eq_nil_iff,
        schemes_of_default own, schemes_of_default own]
      exact kept
    rw [describes.eq_withSecurity again]
    exact Finding.ofOperation_sublist more

theorem getElem?_eq_of_own [Host] {ds : List Declaration} {ops ops' : List Operation}
    (described : List.Forall₂ (Describes document) ds ops)
    (described' : List.Forall₂ (Describes other) ds ops') {i : Nat} (here : ds[i]? = some d)
    (own : d.hasOwnSecurity = true) : ops[i]? = ops'[i]? := by
  obtain ⟨length, rows⟩ := List.forall₂_iff_get.mp described
  obtain ⟨length', rows'⟩ := List.forall₂_iff_get.mp described'
  obtain ⟨below, rfl⟩ := List.getElem?_eq_some_iff.mp here
  rw [List.getElem?_eq_getElem (length ▸ below), List.getElem?_eq_getElem (length' ▸ below)]
  have first := rows i below (length ▸ below)
  have second := rows' i below (length' ▸ below)
  exact congrArg some (first.eq_of_own own second)

end Declaration
end Spec

namespace Report

open Spec

variable {specPath otherPath : Option Path} {document other : Value} {r s : Report}

theorem isSafe_of_sublist {found fewer : List Severity} (sublist : fewer.Sublist found)
    (safe : isSafe found = true) : isSafe fewer = true := by
  simp only [isSafe, Bool.not_eq_true', List.contains_eq_mem, decide_eq_false_iff_not] at safe ⊢
  exact fun blocking => safe (sublist.mem blocking)

theorem isBlocking_of_sublist (findings : s.findings.Sublist r.findings)
    (safe : r.safe = true → s.safe = true) {strict : Bool} (blocking : s.isBlocking strict = true) :
    r.isBlocking strict = true := by
  cases strict with
  | true =>
    simp only [isBlocking, if_true, Bool.not_eq_true', List.isEmpty_eq_false_iff] at blocking ⊢
    intro nothing
    exact blocking (List.sublist_nil.mp (nothing ▸ findings))
  | false =>
    simp only [isBlocking, Bool.false_eq_true, if_false, Bool.not_eq_true'] at blocking ⊢
    rw [Bool.eq_false_iff] at blocking ⊢
    exact fun yes => blocking (safe yes)

/-- Let two documents differ in their default requirements alone, and let the second name a default
scheme if the first does. Then the findings about the second are among those about the first, in
their order; so it is safe, or does not block, where the first is, or does not. Both reports go
through the same declarations, and the records of those with requirements of their own are equal. -/
theorem more_default_security [Host]
    (alike : ∀ name, name ≠ Text.ofString "security" → fieldOf? document name = fieldOf? other name)
    (kept : schemesIn (defaults document) ≠ [] → schemesIn (defaults other) ≠ [])
    (built : (ofDocument specPath document).outcome.1 = .ok r)
    (built' : (ofDocument otherPath other).outcome.1 = .ok s) :
    s.findings.Sublist r.findings
      ∧ (r.safe = true → s.safe = true)
      ∧ (∀ strict, s.isBlocking strict = true → r.isBlocking strict = true)
      ∧ ∃ ds : List Declaration, ds.Perm (Declaration.all document)
          ∧ List.Forall₂ (Declaration.Describes document) ds r.operations
          ∧ List.Forall₂ (Declaration.Describes other) ds s.operations
          ∧ ∀ (i : Nat) (d : Declaration), ds[i]? = some d → d.hasOwnSecurity = true →
            r.operations[i]? = s.operations[i]? := by
  obtain ⟨-, -, described, -⟩ := ofDocument_eq_ok_iff_sorted.mp built
  obtain ⟨-, -, described', -⟩ := ofDocument_eq_ok_iff_sorted.mp built'
  -- Both reports go through the same list, so records and findings compare one by one.
  have declared : Declaration.sorted other = Declaration.sorted document := by
    rw [Declaration.sorted, Declaration.sorted, Declaration.all, Declaration.all,
      alike "paths" (by decide)]
  rw [declared] at described'
  have findings : s.findings.Sublist r.findings := by
    rw [findings_eq_flatMap built, findings_eq_flatMap built']
    have carry (d : Declaration) (op' op : Operation) (again : d.Describes other op')
        (here : d.Describes document op) :
        (Finding.ofOperation op').Sublist (Finding.ofOperation op) :=
      here.findings_sublist kept again
    exact flatMap_sublist (forall₂_carry carry described' described)
  have safe : r.safe = true → s.safe = true := by
    rw [safe_eq_isSafe built, safe_eq_isSafe built']
    exact isSafe_of_sublist (findings.map _)
  exact ⟨findings, safe, fun _ => isBlocking_of_sublist findings safe, _,
    Declaration.sorted_perm document, described, described',
    fun _ _ => Declaration.getElem?_eq_of_own described described'⟩

def itemDocument (security : Value) : Value := .map [
  (.text "openapi", .text "3.0.0"), (.text "info", .map []), (.text "security", security),
  (.text "paths", .map [(.text "/items/\x7bid\x7d", .map [
    (.text "put", .map []), (.text "get", .map [(.text "security", .null)])])])]

def itemOperations (schemes : List Text) : List Operation := [
  ⟨"GET", "/items/\x7bid\x7d", false, true, [], false, none⟩,
  ⟨"PUT", "/items/\x7bid\x7d", false, true, schemes, false, none⟩]

theorem itemDocument_alike (first second : Value) (name : Text)
    (differ : name ≠ Text.ofString "security") :
    fieldOf? (itemDocument first) name = fieldOf? (itemDocument second) name := by
  have other : Scalar.text "security" ≠ .text name := fun same => differ (Scalar.text.inj same).symm
  simp [fieldOf?, itemDocument, Value.entries?, Value.unfold, field?, Value.find?_cons_text, other]

theorem key_requirement_never_hurts :
    ∃ r s, (ofDocument none (itemDocument .null)).outcome.1 = .ok r
      ∧ (ofDocument none (itemDocument keyRequirement)).outcome.1 = .ok s
      ∧ schemesIn (defaults (itemDocument keyRequirement)) ≠ []
      ∧ s.findings.Sublist r.findings ∧ (r.safe = true → s.safe = true)
      ∧ ∀ strict, s.isBlocking strict = true → r.isBlocking strict = true := by
  have built : (ofDocument none (itemDocument .null)).outcome.1
      = .ok (ofOperations none (some "3.0.0") (itemOperations [])) := rfl
  have built' : (ofDocument none (itemDocument keyRequirement)).outcome.1
      = .ok (ofOperations none (some "3.0.0") (itemOperations ["key"])) := rfl
  have asks : schemesIn (defaults (itemDocument keyRequirement)) ≠ [] := by
    have same : defaults (itemDocument keyRequirement) = itemsOf (some keyRequirement) := rfl
    rw [same, schemesIn_keyRequirement]
    exact List.cons_ne_nil _ _
  obtain ⟨findings, safe, blocking, -⟩ :=
    more_default_security (itemDocument_alike _ _) (fun _ => asks) built built'
  exact ⟨_, _, built, built', asks, findings, safe, blocking⟩

end Report
end ExposureLint
