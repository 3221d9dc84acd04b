import Mathlib
import ExposureLint.Proofs.SortedRecords

/-!
Reports compose over paths. A document with the paths of two others has their operations and their
findings together, so routes may be added without a change to what is found about those there are.
-/
namespace ExposureLint

namespace Spec

variable {document first second : Value}

/-- A document with the paths of two others, in any order, and the same default requirements as each
of them. -/
structure Joins (document first second : Value) : Prop where
  defaults_first : defaults first = defaults document
  defaults_second : defaults second = defaults document
  paths : (entriesOf (fieldOf? document "paths")).Perm
    (entriesOf (fieldOf? first "paths") ++ entriesOf (fieldOf? second "paths"))

namespace Joins
variable (joins : Joins document first second)
include joins

theorem sorted_perm : (Declaration.sorted document).Perm
    (Declaration.sorted first ++ Declaration.sorted second) := by
  have declared : (Declaration.all document).Perm
      (Declaration.all first ++ Declaration.all second) := by
    have together := joins.paths.flatMap_right Declaration.ofPath
    rwa [List.flatMap_append] at together
  have apart := (Declaration.sorted_perm first).append (Declaration.sorted_perm second)
  exact (Declaration.sorted_perm document).trans (declared.trans apart.symm)

theorem keysHaveTexts (texts : KeysHaveTexts first) (texts' : KeysHaveTexts second) :
    KeysHaveTexts document := by
  intro item here
  rcases List.mem_append.mp (joins.paths.mem_iff.mp here) with left | right
  · exact texts item left
  · exact texts' item right

theorem exists_records [Host] {ops ops' : List Operation}
    (described : List.Forall₂ (Declaration.Describes first) (Declaration.sorted first) ops)
    (described' : List.Forall₂ (Declaration.Describes second) (Declaration.sorted second) ops') :
    ∃ records, List.Forall₂ (Declaration.Describes document) (Declaration.sorted document) records
      ∧ records.Perm (ops ++ ops') := by
  have left : List.Forall₂ (Declaration.Describes document) (Declaration.sorted first) ops :=
    described.imp fun _ _ describes => describes.of_defaults joins.defaults_first
  have right : List.Forall₂ (Declaration.Describes document) (Declaration.sorted second) ops' :=
    described'.imp fun _ _ describes => describes.of_defaults joins.defaults_second
  exact List.perm_comp_forall₂ joins.sorted_perm (List.rel_append left right)

end Joins
end Spec

open Spec

theorem Finding.ofOperations_perm_append {ops xs ys : List Operation} (perm : ops.Perm (xs ++ ys)) :
    (ofOperations ops).Perm (ofOperations xs ++ ofOperations ys) := by
  have together :
      (ops.flatMap ofOperation).Perm (xs.flatMap ofOperation ++ ys.flatMap ofOperation) := by
    rw [← List.flatMap_append]
    exact perm.flatMap_right ofOperation
  have apart := (ofOperations_perm_flatMap xs).append (ofOperations_perm_flatMap ys)
  exact (ofOperations_perm_flatMap ops).trans (together.trans apart.symm)

namespace Report

/-- A report that has what two others have, and adds up their counts and their verdicts. -/
structure Composes (r first second : Report) : Prop where
  operations : r.operations.Perm (first.operations ++ second.operations)
  findings : r.findings.Perm (first.findings ++ second.findings)
  block : r.summary.block = first.summary.block + second.summary.block
  warn : r.summary.warn = first.summary.warn + second.summary.warn
  protectedRoutes : r.protectedRoutes = first.protectedRoutes + second.protectedRoutes
  publicRoutes : r.publicRoutes = first.publicRoutes + second.publicRoutes
  safe : r.safe = (first.safe && second.safe)
  isBlocking : ∀ strict, r.isBlocking strict = (first.isBlocking strict || second.isBlocking strict)

theorem composes_of_perm {path path₁ path₂ : Option Path} {version version₁ version₂ : Option Text}
    {ops xs ys : List Operation} (perm : ops.Perm (xs ++ ys)) :
    (ofOperations path version ops).Composes (ofOperations path₁ version₁ xs)
      (ofOperations path₂ version₂ ys) := by
  have findings := Finding.ofOperations_perm_append perm
  have severities := findings.map (·.severity)
  rw [List.map_append] at severities
  have safe : isSafe ((Finding.ofOperations ops).map (·.severity))
      = (isSafe ((Finding.ofOperations xs).map (·.severity))
        && isSafe ((Finding.ofOperations ys).map (·.severity))) := by
    rw [isSafe, severities.contains_eq, List.contains_append, Bool.not_or]
    rfl
  constructor
  · exact perm
  · exact findings
  · exact (severities.count_eq .block).trans List.count_append
  · exact (severities.count_eq .warn).trans List.count_append
  · exact (perm.countP_eq isProtected).trans List.countP_append
  · exact (perm.countP_eq fun op => !isProtected op).trans List.countP_append
  · exact safe
  · intro strict
    cases strict with
    | true =>
      have empty : (Finding.ofOperations ops).isEmpty
          = ((Finding.ofOperations xs).isEmpty && (Finding.ofOperations ys).isEmpty) := by
        rw [findings.isEmpty_eq]
        cases Finding.ofOperations xs <;> rfl
      simp only [isBlocking, ofOperations, if_true, empty, Bool.not_and]
    | false =>
      simp only [isBlocking, ofOperations, Bool.false_eq_true, if_false, safe, Bool.not_and]

variable {specPath path₁ path₂ : Option Path} {document first second : Value} {r₁ r₂ : Report}

/-- Where two documents have reports, a document that joins their paths has one too. It has the
operations and the findings of both, the sums of their counts, and it is safe, or does not block,
just where both are, or do not. Every finding about the paths of one is among its findings. -/
theorem joined_paths_compose [Host] (joins : Joins document first second)
    (mapping : ∃ top, document.entries? = some top)
    (built₁ : (ofDocument path₁ first).outcome.1 = .ok r₁)
    (built₂ : (ofDocument path₂ second).outcome.1 = .ok r₂) :
    ∃ r, (ofDocument specPath document).outcome.1 = .ok r ∧ r.Composes r₁ r₂
      ∧ r₁.findings.Subperm r.findings ∧ r₂.findings.Subperm r.findings := by
  obtain ⟨-, texts₁, described₁, made₁⟩ := ofDocument_eq_ok_iff_sorted.mp built₁
  obtain ⟨-, texts₂, described₂, made₂⟩ := ofDocument_eq_ok_iff_sorted.mp built₂
  obtain ⟨records, described, perm⟩ := joins.exists_records described₁ described₂
  have texts := joins.keysHaveTexts texts₁ texts₂
  have composes : (ofOperations specPath ((fieldOf? document "openapi").bind Value.text?)
      records).Composes r₁ r₂ := by
    rw [made₁, made₂]
    exact composes_of_perm perm
  refine ⟨_, ofDocument_eq_ok_iff_sorted.mpr ⟨mapping, texts, described, rfl⟩, composes, ?_, ?_⟩
  · exact (List.sublist_append_left _ _).subperm.trans composes.findings.symm.subperm
  · exact (List.sublist_append_right _ _).subperm.trans composes.findings.symm.subperm

def pathsDocument (paths : List (Scalar × Value)) : Value := .map [
  (.text "openapi", .text "3.0.0"), (.text "info", .map []),
  (.text "security", .list [.map [(.text "key", .list [])]]), (.text "paths", .map paths)]

def statusPath : Scalar × Value :=
  (.text "/status", .map [(.text "get", .map [(.text "x-public", .bool true)])])

def ordersPath : Scalar × Value :=
  (.text "/orders", .map [
    (.text "post", .map [(.text "requestBody", .null), (.text "security", .null)])])

theorem pathsDocument_joins (item other : Scalar × Value) :
    Joins (pathsDocument [item, other]) (pathsDocument [other]) (pathsDocument [item]) where
  defaults_first := rfl
  defaults_second := rfl
  paths := List.Perm.swap other item []

theorem status_and_orders_compose :
    ∃ r r₁ r₂, (ofDocument none (pathsDocument [ordersPath])).outcome.1 = .ok r₁
      ∧ (ofDocument none (pathsDocument [statusPath])).outcome.1 = .ok r₂
      ∧ (ofDocument none (pathsDocument [statusPath, ordersPath])).outcome.1 = .ok r
      ∧ r.Composes r₁ r₂ := by
  have orders : (ofDocument none (pathsDocument [ordersPath])).outcome.1
      = .ok (ofOperations none (some "3.0.0") [
        ⟨"POST", "/orders", true, false, [], false, none⟩]) := rfl
  have status : (ofDocument none (pathsDocument [statusPath])).outcome.1
      = .ok (ofOperations none (some "3.0.0") [
        ⟨"GET", "/status", false, false, ["key"], true, none⟩]) := rfl
  have joined : ∃ r, (ofDocument none (pathsDocument [statusPath, ordersPath])).outcome.1 = .ok r
      ∧ r.Composes _ _ ∧ _ :=
    joined_paths_compose (pathsDocument_joins statusPath ordersPath) ⟨_, rfl⟩ orders status
  obtain ⟨r, built, composes, -⟩ := joined
  exact ⟨r, _, _, orders, status, built, composes⟩

end Report
end ExposureLint
