import Mathlib
import ExposureLint.Project.Pipeline
import ExposureLint.Proofs.Declaration
import ExposureLint.Proofs.Sorting

/-!
Listing the operations of a document loses none of its declarations and adds nothing to them. The
list ascends by path and method, and records with the same path and method stay in document order.
-/
namespace ExposureLint.Spec

variable {document : Value} {ops : List Operation}

/-- Every key under a path has a text, which is what tells whether the key names a method. -/
def KeysHaveTexts (document : Value) : Prop :=
  ∀ item ∈ entriesOf (fieldOf? document "paths"),
    ∀ entry ∈ entriesOf (some item.2), ∃ t, entry.1.display? = .ok t

theorem normalize_eq_ok_iff [Host] :
    normalize document = .ok ops ↔
      (∃ top, document.entries? = some top) ∧ KeysHaveTexts document
        ∧ ∃ records, List.Forall₂ (Declaration.Describes document) (Declaration.all document) records
          ∧ ops = sortBy operationKey records := by
  simp only [normalize, mapError_eq_ok_iff, operations]
  cases mapping : document.entries? with
  | none => simp
  | some top =>
    simp only [map_eq_ok_iff, operationsInOrder_eq_ok_iff mapping, Option.some.injEq,
      exists_eq', true_and]
    constructor
    · rintro ⟨records, ⟨keys, described⟩, sorted⟩
      exact ⟨keys, records, described, sorted.symm⟩
    · rintro ⟨keys, records, described, sorted⟩
      exact ⟨records, ⟨keys, described⟩, sorted.symm⟩

/-- The operations of a document are the records of its declarations, no more and no fewer, sorted
by path and method without a change of order among equals. -/
theorem normalize_sorts_declarations [Host] (listed : normalize document = .ok ops) :
    ∃ records, List.Forall₂ (Declaration.Describes document) (Declaration.all document) records
      ∧ ops.Perm records
      ∧ Ascending operationKey ops
      ∧ ∀ k, ops.filter (fun op => operationKey op == k)
          = records.filter (fun op => operationKey op == k) := by
  obtain ⟨-, -, records, described, rfl⟩ := normalize_eq_ok_iff.mp listed
  exact ⟨records, described, sortBy_perm operationKey records,
    sortBy_ascending operationKey records, sortBy_filter operationKey records⟩

/-- A description with two keys for one method, a malformed path and a malformed operation. -/
def sampleDocument : Value := .map [
  (.text "openapi", .text "3.0.0"), (.text "info", .map []),
  (.text "security", .list [.map [(.text "key", .list [])]]),
  (.text "paths", .map [
    (.text "/users", .map [
      (.text "Get", .map [(.text "x-public", .bool true), (.text "x-reason", .list [.text "up"])]),
      (.text "summary", .map []),
      (.text "get", .map [(.text "security", .null)])]),
    (.text "/broken", .text "none"),
    (.text "/items/\x7bid\x7d", .map [
      (.text "PUT", .map [(.text "security", .list []), (.text "requestBody", .null)]),
      (.text "post", .list [])])])]

def sampleOperations : List Operation := [
  ⟨"PUT", "/items/\x7bid\x7d", true, true, [], false, none⟩,
  ⟨"GET", "/users", false, false, ["key"], true, some "['up']"⟩,
  ⟨"GET", "/users", false, false, [], false, none⟩]

def sampleWrite : Declaration :=
  ⟨.text "/items/\x7bid\x7d", .text "PUT", .put, rfl,
    [(.text "security", .list []), (.text "requestBody", .null)]⟩

def sampleDeclarations : List Declaration := [
  ⟨.text "/users", .text "Get", .get, rfl,
    [(.text "x-public", .bool true), (.text "x-reason", .list [.text "up"])]⟩,
  ⟨.text "/users", .text "get", .get, rfl, [(.text "security", .null)]⟩,
  sampleWrite]

theorem all_sample : Declaration.all sampleDocument = sampleDeclarations := rfl

theorem normalize_sorts_sample :
    normalize sampleDocument = .ok sampleOperations
      ∧ ∃ records,
        List.Forall₂ (Declaration.Describes sampleDocument) (Declaration.all sampleDocument) records
        ∧ sampleOperations.Perm records
        ∧ Ascending operationKey sampleOperations
        ∧ ∀ k, sampleOperations.filter (fun op => operationKey op == k)
            = records.filter (fun op => operationKey op == k) := by
  have listed : normalize sampleDocument = .ok sampleOperations := rfl
  exact ⟨listed, normalize_sorts_declarations listed⟩

end ExposureLint.Spec
