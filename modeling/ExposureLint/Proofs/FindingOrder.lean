import Mathlib
import ExposureLint.Proofs.SortedRecords

/-!
The order of findings about any operations, listed in any order. Findings are sorted by route and
method, and those about one route and method stand in the order of the operations they are about. So
in what order the operations are listed makes no difference, unless two of them share both.
-/
namespace ExposureLint

open Spec

namespace Finding
variable {ops ops' : List Operation}

theorem filter_ofOperation (op : Operation) (k : Text × Text) :
    (ofOperation op).filter (fun f => sortKey f == k)
      = if operationKey op == k then ofOperation op else [] := by
  split
  · rename_i under
    refine List.filter_eq_self.mpr fun f found => ?_
    rw [sortKey_of_mem found, under]
  · rename_i elsewhere
    refine List.filter_eq_nil_iff.mpr fun f found => ?_
    rw [sortKey_of_mem found]
    exact elsewhere

theorem filter_flatMap_ofOperation (ops : List Operation) (k : Text × Text) :
    (ops.flatMap ofOperation).filter (fun f => sortKey f == k)
      = (ops.filter fun op => operationKey op == k).flatMap ofOperation := by
  induction ops with
  | nil => rfl
  | cons op rest ih =>
    rw [List.flatMap_cons, List.filter_append, filter_ofOperation, ih, List.filter_cons]
    split
    · rw [List.flatMap_cons]
    · rw [List.nil_append]

/-- The findings about one route and method are those about the operations there, in their order. -/
theorem filter_ofOperations (ops : List Operation) (k : Text × Text) :
    (ofOperations ops).filter (fun f => sortKey f == k)
      = (ops.filter fun op => operationKey op == k).flatMap ofOperation := by
  rw [ofOperations, sortBy_filter, filter_flatMap_ofOperation]

theorem ofOperations_ascending (ops : List Operation) : Ascending sortKey (ofOperations ops) :=
  sortBy_ascending sortKey (ops.flatMap ofOperation)

theorem ofOperations_eq_flatMap_sortBy (ops : List Operation) :
    ofOperations ops = (sortBy operationKey ops).flatMap ofOperation := by
  have sorted := ofOperations_of_ascending (sortBy_ascending operationKey ops)
  rw [← sorted]
  refine eq_of_ascending_of_filter (ofOperations_ascending ops) (ofOperations_ascending _) ?_
  intro k
  rw [filter_ofOperations, filter_ofOperations, sortBy_filter]

theorem ofOperations_eq_iff : ofOperations ops = ofOperations ops' ↔
    ∀ k, (ops.filter fun op => operationKey op == k).flatMap ofOperation
      = (ops'.filter fun op => operationKey op == k).flatMap ofOperation := by
  constructor
  · intro same k
    rw [← filter_ofOperations, same, filter_ofOperations]
  · intro alike
    refine eq_of_ascending_of_filter (ofOperations_ascending ops) (ofOperations_ascending ops') ?_
    intro k
    rw [filter_ofOperations, alike, filter_ofOperations]

theorem ofOperations_eq_of_perm (apart : (ops.map operationKey).Nodup) (perm : ops.Perm ops') :
    ofOperations ops = ofOperations ops' := by
  have reordered : (sortBy operationKey ops).Perm (sortBy operationKey ops') :=
    (sortBy_perm operationKey ops).trans (perm.trans (sortBy_perm operationKey ops').symm)
  have distinct : ((sortBy operationKey ops).map operationKey).Nodup :=
    ((sortBy_perm operationKey ops).map operationKey).nodup_iff.mpr apart
  have same : sortBy operationKey ops = sortBy operationKey ops' :=
    eq_of_perm_of_ascending distinct reordered (sortBy_ascending operationKey ops)
      (sortBy_ascending operationKey ops')
  rw [ofOperations_eq_flatMap_sortBy, same, ← ofOperations_eq_flatMap_sortBy]

/-- Whatever operations are looked at, nothing that is found about one of them is lost or told
twice. The findings ascend by route and method, and those about one route and method come in the
order of the operations; there is no other list of them that does both. Operations in another order
have the same findings up to order, and in the same order too where their routes and methods are
apart. -/
theorem findings_sorted_stably (ops : List Operation) :
    (ofOperations ops).Perm (ops.flatMap ofOperation)
      ∧ Ascending sortKey (ofOperations ops)
      ∧ (∀ k, (ofOperations ops).filter (fun f => sortKey f == k)
          = (ops.filter fun op => operationKey op == k).flatMap ofOperation)
      ∧ (∀ found, Ascending sortKey found →
          (∀ k, found.filter (fun f => sortKey f == k)
            = (ops.filter fun op => operationKey op == k).flatMap ofOperation) →
          found = ofOperations ops)
      ∧ (∀ ops', ofOperations ops = ofOperations ops' ↔
          ∀ k, (ops.filter fun op => operationKey op == k).flatMap ofOperation
            = (ops'.filter fun op => operationKey op == k).flatMap ofOperation)
      ∧ ∀ ops', ops.Perm ops' → (ofOperations ops).Perm (ofOperations ops')
          ∧ ((ops.map operationKey).Nodup → ofOperations ops = ofOperations ops') := by
  refine ⟨ofOperations_perm_flatMap ops, ofOperations_ascending ops, filter_ofOperations ops, ?_,
    fun ops' => ofOperations_eq_iff, ?_⟩
  · intro found sorted each
    refine eq_of_ascending_of_filter sorted (ofOperations_ascending ops) fun k => ?_
    rw [each, filter_ofOperations]
  · intro ops' perm
    exact ⟨ofOperations_perm perm, fun apart => ofOperations_eq_of_perm apart perm⟩

def bareWrite (method path : Text) : Operation := ⟨method, path, true, false, [], false, none⟩

theorem bareWrites_sorted_stably :
    let ops := [bareWrite "POST" "/z", bareWrite "PUT" "/a", bareWrite "DELETE" "/a"]
    ops.Perm ops.reverse ∧ (ops.map operationKey).Nodup
      ∧ ofOperations ops = ofOperations ops.reverse
      ∧ (ofOperations ops).map sortKey
        = ([("/a", "DELETE"), ("/a", "PUT"), ("/z", "POST")] : List (Text × Text)) := by
  intro ops
  have perm : ops.Perm ops.reverse := ops.reverse_perm.symm
  have apart : (ops.map operationKey).Nodup := by decide
  have reordered := (findings_sorted_stably ops).2.2.2.2.2 ops.reverse perm
  exact ⟨perm, apart, reordered.2 apart, rfl⟩

end Finding
end ExposureLint
