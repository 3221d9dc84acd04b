import Mathlib
import ExposureLint.Proofs.RecordKeys
import ExposureLint.Proofs.Verdict

/-!
What a report is made of, one declaration at a time. Its operations are the records of the
declarations in the order of their record keys, and its findings are those about each operation in
turn. A record depends on a few fields of its declaration and on the default requirements alone.
-/
namespace ExposureLint

namespace Spec

variable {document other : Value} {ops : List Operation}

/-- The requirements of a document as a whole, none unless it lists them. -/
def defaults (document : Value) : List Value := itemsOf (fieldOf? document "security")

def schemesIn (requirements : List Value) : List Scalar :=
  requirements.flatMap fun r => (entriesOf (some r)).map (·.1)

/-- One alternative that asks for nothing, and one that asks for a key. -/
def keyRequirement : Value := .list [.map [], .map [(.text "key", .list [])]]

theorem schemesIn_keyRequirement : schemesIn (itemsOf (some keyRequirement)) = [.text "key"] := rfl

namespace Declaration
variable {d e : Declaration} {op op' : Operation}

/-- Two declarations under the same keys that agree in what the rules read: whether there is a body,
and the values of four fields. -/
structure ReadsAlike (d e : Declaration) : Prop where
  path : d.path = e.path
  key : d.key = e.key
  hasBody : d.hasBody = e.hasBody
  parameters : field? d.fields "parameters" = field? e.fields "parameters"
  security : field? d.fields "security" = field? e.fields "security"
  isPublic : field? d.fields "x-public" = field? e.fields "x-public"
  reason : field? d.fields "x-reason" = field? e.fields "x-reason"

theorem Describes.of_readsAlike [Host] (alike : d.ReadsAlike e)
    (same : defaults document = defaults other) (describes : d.Describes document op) :
    e.Describes other op := by
  have schemes : d.schemes document = e.schemes other := by
    simp only [defaults] at same
    simp only [schemes, requirements, alike.security, same]
  have parameter : d.hasPathParameter = e.hasPathParameter := by
    simp only [hasPathParameter, alike.parameters]
  have isPublic : d.isPublic = e.isPublic := by
    simp only [Declaration.isPublic, alike.isPublic]
  have kept : d.reason? = e.reason? := by
    simp only [reason?, isPublic, alike.reason]
  constructor
  · exact alike.path ▸ describes.path
  · exact alike.key ▸ describes.method
  · rw [describes.hasBody, alike.hasBody]
  · rw [describes.hasPathParams, parameter]
  · exact schemes ▸ describes.security
  · rw [describes.isPublic, isPublic]
  · exact kept ▸ describes.reason

theorem readsAlike_refl (d : Declaration) : d.ReadsAlike d := ⟨rfl, rfl, rfl, rfl, rfl, rfl, rfl⟩

/-- Of the document only the default requirements go into a record. -/
theorem Describes.of_defaults [Host] (same : defaults document = defaults other)
    (describes : d.Describes document op) : d.Describes other op :=
  describes.of_readsAlike (readsAlike_refl d) same

theorem Describes.eq_withSecurity [Host] (describes : d.Describes document op)
    (again : d.Describes other op') : op' = { op with security := op'.security } := by
  have path : op'.path = op.path := Except.ok.inj (again.path.symm.trans describes.path)
  have method : op'.method = op.method := again.method_eq_verb.trans describes.method_eq_verb.symm
  have hasBody : op'.hasBody = op.hasBody := again.hasBody.trans describes.hasBody.symm
  have params : op'.hasPathParams = op.hasPathParams := by
    rw [again.hasPathParams, describes.hasPathParams, path]
  have isPublic : op'.isPublic = op.isPublic := again.isPublic.trans describes.isPublic.symm
  have reason : op'.reason = op.reason := Except.ok.inj (again.reason.symm.trans describes.reason)
  cases op'
  simp_all

theorem Describes.unique [Host] (describes : d.Describes document op)
    (again : d.Describes document op') : op = op' := by
  have security : op.security = op'.security := by
    have first := mapM_eq_ok_iff.mpr describes.security
    have second := mapM_eq_ok_iff.mpr again.security
    exact Except.ok.inj (first.symm.trans second)
  rw [describes.eq_withSecurity again, ← security]

theorem describes_rightUnique [Host] (document : Value) :
    Relator.RightUnique (List.Forall₂ (Describes document)) :=
  Relator.RightUnique.forall₂ fun _ _ _ describes again => describes.unique again

def withFields (d : Declaration) (fields : List (Scalar × Value)) : Declaration :=
  { d with fields := fields }

theorem path_of_mem_ofPath {item : Scalar × Value} (declared : d ∈ ofPath item) :
    d.path = item.1 := by
  obtain ⟨entry, -, made⟩ := List.mem_filterMap.mp declared
  exact (of?_fields made).1

/-- The texts that declarations are sorted by, empty where a declaration has no record. -/
def sortKey (d : Declaration) : Text × Text := d.recordKey?.getD ([], [])

theorem Describes.sortKey_eq [Host] (describes : d.Describes document op) :
    d.sortKey = operationKey op := by
  rw [sortKey, describes.recordKey?, Option.getD_some]

theorem ReadsAlike.sortKey_eq (alike : d.ReadsAlike e) : d.sortKey = e.sortKey := by
  simp only [sortKey, recordKey?, alike.path, alike.key]

def sorted (document : Value) : List Declaration := sortBy sortKey (all document)

theorem sorted_perm (document : Value) : (sorted document).Perm (all document) :=
  sortBy_perm sortKey (all document)

end Declaration

theorem normalize_eq_ok_iff_sorted [Host] :
    normalize document = .ok ops ↔
      (∃ top, document.entries? = some top) ∧ KeysHaveTexts document
        ∧ List.Forall₂ (Declaration.Describes document) (Declaration.sorted document) ops := by
  have sorting {records : List Operation} (described :
      List.Forall₂ (Declaration.Describes document) (Declaration.all document) records) :
      List.Forall₂ (Declaration.Describes document) (Declaration.sorted document)
        (sortBy operationKey records) :=
    forall₂_sortBy (fun _ _ describes => describes.sortKey_eq) described
  rw [normalize_eq_ok_iff]
  constructor
  · rintro ⟨mapping, texts, records, described, rfl⟩
    exact ⟨mapping, texts, sorting described⟩
  · rintro ⟨mapping, texts, described⟩
    -- In document order there are records too, and sorted they are the given ones.
    obtain ⟨records, unsorted, -⟩ :=
      List.perm_comp_forall₂ (Declaration.sorted_perm document).symm described
    exact ⟨mapping, texts, records, unsorted,
      Declaration.describes_rightUnique document described (sorting unsorted)⟩

end Spec

open Spec

namespace Finding
variable {op : Operation}

theorem sortKey_of_mem {f : Finding} (found : f ∈ ofOperation op) :
    sortKey f = operationKey op := by
  obtain ⟨rule, -, checked⟩ := List.mem_filterMap.mp found
  unfold Rule.check at checked
  split at checked
  · cases checked
    rfl
  · cases checked

theorem ofOperations_perm_flatMap (ops : List Operation) :
    (ofOperations ops).Perm (ops.flatMap ofOperation) :=
  sortBy_perm sortKey (ops.flatMap ofOperation)

theorem ofOperations_perm {ops ops' : List Operation} (perm : ops.Perm ops') :
    (ofOperations ops).Perm (ofOperations ops') := by
  have found := perm.flatMap_right ofOperation
  exact (ofOperations_perm_flatMap ops).trans (found.trans (ofOperations_perm_flatMap ops').symm)

/-- What is found about sorted operations is sorted as it comes. -/
theorem ofOperations_of_ascending {ops : List Operation} (sorted : Ascending operationKey ops) :
    ofOperations ops = ops.flatMap ofOperation := by
  apply sortBy_of_ascending
  rw [Ascending, List.pairwise_flatMap]
  constructor
  -- Findings about one operation are all under its own key.
  · intro op _
    refine List.pairwise_of_forall_mem_list fun f first g second => ?_
    rw [sortKey_of_mem first, sortKey_of_mem second]
  · refine sorted.imp fun below f first g second => ?_
    rwa [sortKey_of_mem first, sortKey_of_mem second]

end Finding

namespace Report
variable {specPath : Option Path} {document : Value} {r : Report}

theorem ofDocument_eq_ok_iff_sorted [Host] :
    (ofDocument specPath document).outcome.1 = .ok r ↔
      (∃ top, document.entries? = some top) ∧ KeysHaveTexts document
        ∧ List.Forall₂ (Declaration.Describes document) (Declaration.sorted document) r.operations
        ∧ r = ofOperations specPath ((fieldOf? document "openapi").bind Value.text?)
            r.operations := by
  rw [ofDocument_eq_ok_iff]
  constructor
  · rintro ⟨ops, listed, rfl⟩
    obtain ⟨mapping, texts, described⟩ := normalize_eq_ok_iff_sorted.mp listed
    exact ⟨mapping, texts, described, rfl⟩
  · rintro ⟨mapping, texts, described, made⟩
    exact ⟨r.operations, normalize_eq_ok_iff_sorted.mpr ⟨mapping, texts, described⟩, made⟩

theorem safe_eq_isSafe [Host] (built : (ofDocument specPath document).outcome.1 = .ok r) :
    r.safe = isSafe (r.findings.map (·.severity)) := by
  obtain ⟨ops, -, rfl⟩ := ofDocument_eq_ok_iff.mp built
  rfl

theorem findings_eq_flatMap [Host] (built : (ofDocument specPath document).outcome.1 = .ok r) :
    r.findings = r.operations.flatMap Finding.ofOperation := by
  obtain ⟨ops, listed, rfl⟩ := ofDocument_eq_ok_iff.mp built
  obtain ⟨-, -, records, -, rfl⟩ := normalize_eq_ok_iff.mp listed
  exact Finding.ofOperations_of_ascending (sortBy_ascending operationKey records)

end Report
end ExposureLint
