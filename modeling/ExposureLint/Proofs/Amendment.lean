import Mathlib
import ExposureLint.Proofs.SortedRecords

/-!
Documents with some operations replaced. The declarations stay where they are, with other fields
under the same keys, so the reports before and after the replacement of one operation differ in the
record of that operation alone.
-/
namespace ExposureLint

theorem Scalar.sameKey_refl (s : Scalar) : s.sameKey s = true := by
  cases s with
  | float x =>
    simp only [sameKey, Binary64.sameKey]
    split
    · rfl
    · exact beq_self_eq_true x
  | moment m =>
    simp only [sameKey, Moment.sameKey]
    cases m.offset <;> simp
  | _ => simp [sameKey, toInt?]

namespace Spec

/-- The fields to put in place of those of a declaration, where there are any. -/
abbrev Change := Declaration → Option (List (Scalar × Value))

def amendedEntry (change : Change) (path : Scalar) (entry : Scalar × Value) : Scalar × Value :=
  match (Declaration.of? path entry).bind change with
  | some fields => (entry.1, .map fields)
  | none => entry

def amendedPath (change : Change) (item : Scalar × Value) : Scalar × Value :=
  match item.2.entries? with
  | some entries => (item.1, .map (entries.map (amendedEntry change item.1)))
  | none => item

def amended (change : Change) (document : Value) : Value :=
  match document.entries?, (fieldOf? document "paths").bind Value.entries? with
  | some top, some paths =>
    .map (Value.put (.text "paths") (.map (paths.map (amendedPath change))) top)
  | _, _ => document

def Declaration.amend (change : Change) (d : Declaration) : Declaration :=
  match change d with
  | some fields => d.withFields fields
  | none => d

variable {document : Value} {change : Change}

theorem fieldOf?_map (es : List (Scalar × Value)) (name : Text) :
    fieldOf? (.map es) name = field? es name := rfl

theorem amended_paths : entriesOf (fieldOf? (amended change document) "paths")
    = (entriesOf (fieldOf? document "paths")).map (amendedPath change) := by
  unfold amended
  split
  · rename_i top paths _ found
    have before : entriesOf (fieldOf? document "paths") = paths := by rw [entriesOf, found]; rfl
    rw [fieldOf?_map, field?, Value.find?_put_self, before]
    rfl
  · rename_i other
    have none' : (fieldOf? document "paths").bind Value.entries? = none := by
      rw [Option.eq_none_iff_forall_ne_some]
      intro paths found
      obtain ⟨v, there, -⟩ := Option.bind_eq_some_iff.mp found
      obtain ⟨top, mapping, -⟩ := Option.bind_eq_some_iff.mp there
      exact other top paths mapping found
    rw [entriesOf, none']
    rfl

theorem fieldOf?_amended {name : Text} (other : name ≠ Text.ofString "paths") :
    fieldOf? (amended change document) name = fieldOf? document name := by
  unfold amended
  split
  · rename_i top paths mapping _
    rw [fieldOf?_map, field?, Value.find?_put_of_ne other, fieldOf?, mapping]
    rfl
  · rfl

theorem defaults_amended : defaults (amended change document) = defaults document := by
  rw [defaults, defaults, fieldOf?_amended (by decide)]

theorem entries?_amended (mapping : ∃ top, document.entries? = some top) :
    ∃ top, (amended change document).entries? = some top := by
  unfold amended
  split
  · exact ⟨_, rfl⟩
  · exact mapping

theorem amendedPath_fst (item : Scalar × Value) : (amendedPath change item).1 = item.1 := by
  unfold amendedPath
  split <;> rfl

theorem amendedEntry_fst (path : Scalar) (entry : Scalar × Value) :
    (amendedEntry change path entry).1 = entry.1 := by
  unfold amendedEntry
  split <;> rfl

theorem amendedPath_entries (item : Scalar × Value) :
    entriesOf (some (amendedPath change item).2)
      = (entriesOf (some item.2)).map (amendedEntry change item.1) := by
  unfold amendedPath
  split
  · rename_i entries mapping
    rw [entriesOf, entriesOf, Option.bind_some, Option.bind_some, mapping]
    rfl
  · rename_i plain
    rw [entriesOf, Option.bind_some, plain]
    rfl

theorem keysHaveTexts_amended (texts : KeysHaveTexts document) :
    KeysHaveTexts (amended change document) := by
  intro item here entry there
  rw [amended_paths] at here
  obtain ⟨item, before, rfl⟩ := List.mem_map.mp here
  rw [amendedPath_entries] at there
  obtain ⟨entry, within, rfl⟩ := List.mem_map.mp there
  rw [amendedEntry_fst]
  exact texts item before entry within

namespace Declaration

theorem of?_amendedEntry (path : Scalar) (entry : Scalar × Value) :
    of? path (amendedEntry change path entry) = (of? path entry).map (amend change) := by
  cases made : of? path entry with
  | none =>
    have same : amendedEntry change path entry = entry := by rw [amendedEntry, made]; rfl
    rw [same, made]
    rfl
  | some d =>
    obtain ⟨rfl, key, -⟩ := of?_fields made
    rw [amendedEntry, made, Option.bind_some, Option.map_some, amend]
    cases change d with
    | none => exact made
    | some fields =>
      rw [← key]
      exact of?_eq_some d.named rfl

theorem ofPath_amendedPath (item : Scalar × Value) :
    ofPath (amendedPath change item) = (ofPath item).map (amend change) := by
  rw [ofPath, ofPath, amendedPath_entries, amendedPath_fst, List.filterMap_map, List.map_filterMap]
  exact List.filterMap_congr fun entry _ => of?_amendedEntry item.1 entry

theorem all_amended : all (amended change document) = (all document).map (amend change) := by
  rw [all, all, amended_paths, List.flatMap_map, List.map_flatMap]
  exact congrArg₂ _ (funext ofPath_amendedPath) rfl

theorem sortKey_amend (d : Declaration) : (d.amend change).sortKey = d.sortKey := by
  unfold amend
  split <;> rfl

theorem sorted_amended :
    sorted (amended change document) = (sorted document).map (amend change) := by
  -- A change keeps the keys that are sorted by, so the rows stay rows when both sides are sorted.
  have rows : List.Forall₂ (fun d e => d.amend change = e) (all document)
      (all (amended change document)) := by
    rw [all_amended, List.forall₂_map_right_iff, List.forall₂_same]
    exact fun _ _ => rfl
  have keys (d e : Declaration) (same : d.amend change = e) : sortKey d = sortKey e := by
    rw [← same, sortKey_amend]
  have kept : List.Forall₂ (fun d e => d.amend change = e) (sorted document)
      (sorted (amended change document)) := forall₂_sortBy keys rows
  have equal := List.forall₂_map_left_iff.mpr kept
  rw [List.forall₂_eq_eq_eq] at equal
  exact equal.symm

def SameKeys (d e : Declaration) : Prop := d.path = e.path ∧ d.key = e.key

instance (d e : Declaration) : Decidable (SameKeys d e) :=
  inferInstanceAs (Decidable (d.path = e.path ∧ d.key = e.key))

theorem all_distinct (keyed : document.isKeyed = true) :
    (all document).Pairwise fun d e => ¬ SameKeys d e := by
  obtain ⟨distinct, inside⟩ := entriesOf_keyed (o := fieldOf? document "paths") fun v found =>
    fieldOf?_keyed keyed found
  have differ {s t : Scalar} (apart : s.sameKey t = false) : s ≠ t := by
    rintro rfl
    rw [Scalar.sameKey_refl] at apart
    contradiction
  rw [all, List.pairwise_flatMap]
  constructor
  · intro item here
    have keys := (entriesOf_keyed (o := some item.2) fun v same =>
      Option.some.inj same ▸ inside item here).1
    refine (ofPath_distinct keys).imp ?_
    intro d e apart same
    exact differ apart same.2
  · refine distinct.imp ?_
    intro a b apart d first e second same
    refine differ apart ?_
    rw [← path_of_mem_ofPath first, ← path_of_mem_ofPath second, same.1]

def replacing (d : Declaration) (fields : List (Scalar × Value)) : Change :=
  fun e => if SameKeys e d then some fields else none

abbrev replaced (d : Declaration) (fields : List (Scalar × Value)) (document : Value) : Value :=
  amended (d.replacing fields) document

theorem amend_replacing_self (d : Declaration) (fields : List (Scalar × Value)) :
    d.amend (replacing d fields) = d.withFields fields := by
  simp [amend, replacing, SameKeys]

theorem amend_replacing_of_ne {d e : Declaration} (fields : List (Scalar × Value))
    (apart : ¬ SameKeys e d) : e.amend (replacing d fields) = e := by
  simp [amend, replacing, apart]

theorem map_replacing_of_ne {d : Declaration} {es : List Declaration}
    (fields : List (Scalar × Value)) (apart : ∀ e ∈ es, ¬ SameKeys e d) :
    es.map (amend (replacing d fields)) = es := by
  have unchanged : ∀ e ∈ es, amend (replacing d fields) e = id e :=
    fun e here => amend_replacing_of_ne fields (apart e here)
  rw [List.map_congr_left unchanged, List.map_id]

theorem sorted_replacing (keyed : document.isKeyed = true) {d : Declaration}
    (declared : d ∈ all document) (fields : List (Scalar × Value)) :
    ∃ before after, sorted document = before ++ d :: after
      ∧ sorted (d.replaced fields document) = before ++ d.withFields fields :: after := by
  obtain ⟨before, after, split⟩ :=
    List.append_of_mem ((sorted_perm document).mem_iff.mpr declared)
  have distinct : (sorted document).Pairwise fun d e => ¬ SameKeys d e := by
    refine (sorted_perm document).symm.pairwise (all_distinct keyed) ?_
    intro d e apart same
    exact apart ⟨same.1.symm, same.2.symm⟩
  rw [split, List.pairwise_append, List.pairwise_cons] at distinct
  obtain ⟨-, ⟨below, -⟩, across⟩ := distinct
  -- No other declaration is under the keys of this one, so the change passes over all of them.
  have first := map_replacing_of_ne fields fun e here => across e here d List.mem_cons_self
  have second := map_replacing_of_ne fields fun e here same =>
    below e here ⟨same.1.symm, same.2.symm⟩
  refine ⟨before, after, split, ?_⟩
  rw [sorted_amended, split, List.map_append, List.map_cons, first, second, amend_replacing_self]

end Declaration
end Spec

theorem forall₂_append_cons {α β : Type} {R : α → β → Prop} {before after : List α} {x : α}
    {ys : List β} : List.Forall₂ R (before ++ x :: after) ys ↔
      ∃ before' y after', ys = before' ++ y :: after'
        ∧ List.Forall₂ R before before' ∧ R x y ∧ List.Forall₂ R after after' := by
  constructor
  · intro rows
    induction before generalizing ys with
    | nil =>
      cases rows with
      | cons here others => exact ⟨[], _, _, rfl, .nil, here, others⟩
    | cons a rest ih =>
      cases rows with
      | cons first others =>
        obtain ⟨before', y, after', rfl, left, here, right⟩ := ih others
        exact ⟨_ :: before', y, after', rfl, .cons first left, here, right⟩
  · rintro ⟨before', y, after', rfl, left, here, right⟩
    exact List.rel_append left (.cons here right)

namespace Report

open Spec

/-- What one replaced operation changes: its own record and what is found about that. The records of
all other declarations stay in their places, and so does what is found about them. -/
structure Replaces [Host] (document : Value) (d : Declaration) (fields : List (Scalar × Value))
    (r s : Report) (op op' : Operation) : Prop where
  old : d.Describes document op
  new : (d.withFields fields).Describes (d.replaced fields document) op'
  others : ∃ ds es before after, (Declaration.all document).Perm (ds ++ d :: es)
    ∧ List.Forall₂ (Declaration.Describes document) ds before
    ∧ List.Forall₂ (Declaration.Describes document) es after
    ∧ r.operations = before ++ op :: after ∧ s.operations = before ++ op' :: after
    ∧ r.findings = before.flatMap Finding.ofOperation
        ++ (Finding.ofOperation op ++ after.flatMap Finding.ofOperation)
    ∧ s.findings = before.flatMap Finding.ofOperation
        ++ (Finding.ofOperation op' ++ after.flatMap Finding.ofOperation)

variable {specPath : Option Path} {document : Value} {r s : Report} {d : Declaration}
  {fields : List (Scalar × Value)}

/-- With one operation replaced there is a report just when the new operation has a record. -/
theorem exists_replaced_iff [Host] (keyed : document.isKeyed = true)
    (built : (ofDocument specPath document).outcome.1 = .ok r)
    (declared : d ∈ Declaration.all document) :
    (∃ s, (ofDocument specPath (d.replaced fields document)).outcome.1 = .ok s)
      ↔ ∃ op, (d.withFields fields).Describes document op := by
  obtain ⟨mapping, texts, described, -⟩ := ofDocument_eq_ok_iff_sorted.mp built
  obtain ⟨before, after, split, split'⟩ := Declaration.sorted_replacing keyed declared fields
  constructor
  · rintro ⟨s, built'⟩
    obtain ⟨-, -, described', -⟩ := ofDocument_eq_ok_iff_sorted.mp built'
    rw [split'] at described'
    obtain ⟨-, op, -, -, -, here, -⟩ := forall₂_append_cons.mp described'
    exact ⟨op, here.of_defaults defaults_amended⟩
  · rintro ⟨op, describes⟩
    rw [split] at described
    obtain ⟨left, -, right, -, first, -, last⟩ := forall₂_append_cons.mp described
    have carry (e : Declaration) (op : Operation) (describes : e.Describes document op) :
        e.Describes (d.replaced fields document) op :=
      describes.of_defaults defaults_amended.symm
    have rows := forall₂_append_cons.mpr
      ⟨left, op, right, rfl, first.imp carry, carry _ op describes, last.imp carry⟩
    rw [← split'] at rows
    exact ⟨ofOperations specPath _ (left ++ op :: right), ofDocument_eq_ok_iff_sorted.mpr
      ⟨entries?_amended mapping, keysHaveTexts_amended texts, rows, rfl⟩⟩

theorem exists_replaces [Host] (keyed : document.isKeyed = true)
    (built : (ofDocument specPath document).outcome.1 = .ok r)
    (declared : d ∈ Declaration.all document)
    (built' : (ofDocument specPath (d.replaced fields document)).outcome.1 = .ok s) :
    ∃ op op', Replaces document d fields r s op op' := by
  obtain ⟨-, -, described, -⟩ := ofDocument_eq_ok_iff_sorted.mp built
  obtain ⟨-, -, described', -⟩ := ofDocument_eq_ok_iff_sorted.mp built'
  obtain ⟨before, after, split, split'⟩ := Declaration.sorted_replacing keyed declared fields
  have all := Declaration.sorted_perm document
  rw [split] at described all
  rw [split'] at described'
  obtain ⟨left, op, right, records, first, here, last⟩ := forall₂_append_cons.mp described
  obtain ⟨left', op', right', records', first', here', last'⟩ := forall₂_append_cons.mp described'
  have carry (e : Declaration) (op : Operation)
      (describes : e.Describes (d.replaced fields document) op) : e.Describes document op :=
    describes.of_defaults defaults_amended
  -- The declarations around have records in both reports, and each has but one.
  have sameLeft := Declaration.describes_rightUnique document (first'.imp carry) first
  have sameRight := Declaration.describes_rightUnique document (last'.imp carry) last
  rw [sameLeft, sameRight] at records'
  refine ⟨op, op', here, here', before, after, left, right, all.symm, first, last, records,
    records', ?_, ?_⟩
  · rw [findings_eq_flatMap built, records, List.flatMap_append, List.flatMap_cons]
  · rw [findings_eq_flatMap built', records', List.flatMap_append, List.flatMap_cons]

end Report
end ExposureLint
