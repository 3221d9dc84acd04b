import Mathlib
import ExposureLint.Proofs.SortedRecords

/-!
The layout of a description does not matter. Where mappings have distinct keys, a document whose
entries are reordered, down to the fields of the operations, has the same operations and findings up
to order and the same verdict; where the record keys are apart, the whole report is the same.
-/
namespace ExposureLint

namespace Value

/-- Entries reordered in a value and in the mappings inside it, down to a depth. -/
def Relaid : Nat → Value → Value → Prop
  | 0, v, w => v = w
  | depth + 1, v, w => v = w ∨ ∃ es fs, v.entries? = some es ∧ w.entries? = some fs
      ∧ Multiset.Rel (UnderOneKey (Relaid depth)) es fs

variable {depth : Nat} {v w : Value}

theorem relaid_refl (depth : Nat) (v : Value) : Relaid depth v v := by
  cases depth with
  | zero => rfl
  | succ depth => exact .inl rfl

theorem relaid_of_reverse {es fs : List (Scalar × Value)}
    (inside : List.Forall₂ (UnderOneKey (Relaid depth)) es.reverse fs) :
    Relaid (depth + 1) (.map es) (.map fs) :=
  .inr ⟨es, fs, rfl, rfl, rel_coe_iff.mpr ⟨es.reverse, (List.reverse_perm es).symm, inside⟩⟩

theorem not_listed_of_mapping {es : List (Scalar × Value)} (mapping : v.entries? = some es) :
    v.items? = none ∧ v.text? = none := by
  constructor
  · unfold entries? at mapping
    unfold items?
    split at mapping
    · rename_i same
      rw [same]
    · contradiction
  · cases v with
    | scalar s => contradiction
    | _ => rfl

theorem Relaid.listed (relaid : Relaid depth v w) : v.items? = w.items? ∧ v.text? = w.text? := by
  cases depth with
  | zero => exact ⟨congrArg items? relaid, congrArg text? relaid⟩
  | succ depth =>
    rcases relaid with rfl | ⟨es, fs, left, right, -⟩
    · exact ⟨rfl, rfl⟩
    · have first := not_listed_of_mapping left
      have second := not_listed_of_mapping right
      exact ⟨first.1.trans second.1.symm, first.2.trans second.2.symm⟩

end Value

namespace Spec

open Value

variable {depth : Nat} {o p : Option Value}

theorem fieldOf?_eq_find? (v : Value) (name : Text) :
    fieldOf? v name = find? (.text name) (entriesOf (some v)) := by
  rw [fieldOf?, entriesOf, Option.bind_some]
  cases v.entries? <;> rfl

/-- The entries of a reordered value are the same ones in another order, reordered inside. -/
theorem entriesOf_relaid (related : Option.Rel (Relaid (depth + 1)) o p) :
    Multiset.Rel (UnderOneKey (Relaid depth)) (entriesOf o) (entriesOf p) := by
  have same (es : List (Scalar × Value)) : Multiset.Rel (UnderOneKey (Relaid depth)) es es :=
    Multiset.rel_refl_of_refl_on fun e _ => ⟨rfl, relaid_refl depth e.2⟩
  cases related with
  | none => exact same []
  | @some v w relaid =>
    rcases relaid with rfl | ⟨es, fs, left, right, entries⟩
    · exact same _
    · simpa [entriesOf, left, right] using entries

theorem itemsOf_relaid (related : Option.Rel (Relaid depth) o p) : itemsOf o = itemsOf p := by
  cases related with
  | none => rfl
  | some relaid => rw [itemsOf, itemsOf, Option.bind_some, Option.bind_some, relaid.listed.1]

theorem text_relaid (related : Option.Rel (Relaid depth) o p) : o.bind text? = p.bind text? := by
  cases related with
  | none => rfl
  | some relaid => exact relaid.listed.2

theorem eq_of_rel_zero (related : Option.Rel (Relaid 0) o p) : o = p := by
  cases related with
  | none => rfl
  | some same => exact congrArg some same

theorem fieldOf?_relaid {v w : Value} (keyed : v.isKeyed = true) (relaid : Relaid (depth + 1) v w)
    (name : Text) : Option.Rel (Relaid depth) (fieldOf? v name) (fieldOf? w name) := by
  rw [fieldOf?_eq_find?, fieldOf?_eq_find?]
  have distinct := (entriesOf_keyed (o := some v) fun u same => Option.some.inj same ▸ keyed).1
  exact find?_rel distinct (entriesOf_relaid (.some relaid))

namespace Declaration

/-- The same keys, and the same fields in any order. -/
structure Agrees (d e : Declaration) : Prop where
  path : d.path = e.path
  key : d.key = e.key
  fields : ∀ name, field? d.fields name = field? e.fields name

theorem Agrees.readsAlike {d e : Declaration} (agrees : d.Agrees e) : d.ReadsAlike e where
  path := agrees.path
  key := agrees.key
  hasBody := by rw [hasBody, hasBody, agrees.fields]
  parameters := agrees.fields _
  security := agrees.fields _
  isPublic := agrees.fields _
  reason := agrees.fields _

theorem of?_relaid {at' : Scalar} {a b : Scalar × Value} (keyed : a.2.isKeyed = true)
    (related : UnderOneKey (Relaid 1) a b) :
    Multiset.Rel Agrees (of? at' a).toList (of? at' b).toList := by
  obtain ⟨key, v⟩ := a
  obtain ⟨_, w⟩ := b
  obtain ⟨rfl, relaid⟩ := related
  cases named : namedMethod? key with
  | none =>
    rw [of?_eq_none (.inl named), of?_eq_none (.inl named)]
    exact .zero
  | some m =>
    have agree {es fs : List (Scalar × Value)} (left : v.entries? = some es)
        (right : w.entries? = some fs) : Multiset.Rel Agrees (of? at' (key, v)).toList
          (of? at' (key, w)).toList := by
      rw [of?_eq_some named left, of?_eq_some named right]
      refine .cons ⟨rfl, rfl, fun name => ?_⟩ .zero
      have found := eq_of_rel_zero (fieldOf?_relaid keyed relaid name)
      rwa [fieldOf?, fieldOf?, left, right, Option.bind_some, Option.bind_some] at found
    rcases relaid with rfl | ⟨es, fs, left, right, -⟩
    · cases mapping : v.entries? with
      | none =>
        rw [of?_eq_none (.inr mapping)]
        exact .zero
      | some es => exact agree mapping mapping
    · exact agree left right

theorem ofPath_relaid {a b : Scalar × Value} (keyed : a.2.isKeyed = true)
    (related : UnderOneKey (Relaid 2) a b) : Multiset.Rel Agrees (ofPath a) (ofPath b) := by
  have inside := (entriesOf_keyed (o := some a.2) fun v same => Option.some.inj same ▸ keyed).2
  rw [ofPath, ofPath, List.filterMap_eq_flatMap_toList, List.filterMap_eq_flatMap_toList,
    related.1]
  refine rel_flatMap (entriesOf_relaid (.some related.2)) ?_
  intro x here y under
  exact of?_relaid (inside x here) under

section
variable {document other : Value} (keyed : document.isKeyed = true)
  (relaid : Relaid 4 document other)
include keyed relaid

/-- The declarations of a reordered document are those of the document in another order. -/
theorem all_relaid : Multiset.Rel Agrees (all document) (all other) := by
  have inside := (entriesOf_keyed (o := fieldOf? document "paths") fun v found =>
    fieldOf?_keyed keyed found).2
  refine rel_flatMap (entriesOf_relaid (fieldOf?_relaid keyed relaid "paths")) ?_
  intro a here b related
  exact ofPath_relaid (inside a here) related

theorem describes_relaid [Host] {d e : Declaration} {op : Operation} (agrees : d.Agrees e)
    (describes : d.Describes document op) : e.Describes other op := by
  have same : defaults document = defaults other :=
    itemsOf_relaid (fieldOf?_relaid keyed relaid "security")
  exact describes.of_readsAlike agrees.readsAlike same

theorem keysHaveTexts_relaid (texts : KeysHaveTexts document) : KeysHaveTexts other := by
  intro item here entry there
  have paths := entriesOf_relaid (fieldOf?_relaid keyed relaid "paths")
  obtain ⟨a, first, relatedItem⟩ :=
    Multiset.exists_mem_of_rel_of_mem (Multiset.rel_flip.mpr paths) (Multiset.mem_coe.mpr here)
  have inside := entriesOf_relaid (.some relatedItem.2)
  obtain ⟨x, second, relatedEntry⟩ :=
    Multiset.exists_mem_of_rel_of_mem (Multiset.rel_flip.mpr inside) (Multiset.mem_coe.mpr there)
  exact relatedEntry.1 ▸ texts a first x second

end

end Declaration

section
variable {document other : Value} {ops : List Operation}

/-- A reordered document lists the same operations, in the same order where each record key has one
record. -/
theorem normalize_relaid [Host] (keyed : document.isKeyed = true) (relaid : Relaid 4 document other)
    (listed : normalize document = .ok ops) :
    ∃ ops', normalize other = .ok ops' ∧ ops.Perm ops'
      ∧ (Declaration.Apart document → ops = ops') := by
  obtain ⟨⟨top, mapping⟩, texts, records, described, sorted⟩ := normalize_eq_ok_iff.mp listed
  have mapping' : ∃ top', other.entries? = some top' := by
    rcases relaid with rfl | ⟨_, fs, -, right, -⟩
    · exact ⟨top, mapping⟩
    · exact ⟨fs, right⟩
  have carry (d e : Declaration) (op : Operation) (agrees : d.Agrees e)
      (describes : d.Describes document op) : e.Describes other op :=
    Declaration.describes_relaid keyed relaid agrees describes
  obtain ⟨moved, perm, described'⟩ :=
    exists_perm_forall₂ (Declaration.all_relaid keyed relaid) carry described
  have reordered : ops.Perm (sortBy operationKey moved) := by
    rw [sorted]
    have back := (sortBy_perm operationKey moved).symm
    exact (sortBy_perm operationKey records).trans (perm.trans back)
  refine ⟨sortBy operationKey moved, ?_, reordered, ?_⟩
  · exact normalize_eq_ok_iff.mpr ⟨mapping', Declaration.keysHaveTexts_relaid keyed relaid texts,
      moved, described', rfl⟩
  · intro apart
    have distinct := (Declaration.nodup_recordKeys_iff listed).mpr apart
    refine eq_of_perm_of_ascending distinct reordered ?_ (sortBy_ascending operationKey moved)
    rw [sorted]
    exact sortBy_ascending operationKey records

end
end Spec

namespace Report

open Spec

/-- Two reports that tell one verdict, on the same operations up to order. -/
structure SameVerdict (r s : Report) : Prop where
  specPath : r.specPath = s.specPath
  version : r.version = s.version
  operations : r.operations.Perm s.operations
  findings : r.findings.Perm s.findings
  summary : r.summary = s.summary
  safe : r.safe = s.safe
  skipped : r.skipped = s.skipped
  protectedRoutes : r.protectedRoutes = s.protectedRoutes
  publicRoutes : r.publicRoutes = s.publicRoutes
  isBlocking : ∀ strict, r.isBlocking strict = s.isBlocking strict

theorem ofOperations_perm (specPath : Option Path) (version : Option Text)
    {ops ops' : List Operation} (perm : ops.Perm ops') :
    (ofOperations specPath version ops).SameVerdict (ofOperations specPath version ops') := by
  have findings : (Finding.ofOperations ops).Perm (Finding.ofOperations ops') :=
    Finding.ofOperations_perm perm
  have severities := findings.map (·.severity)
  have safe : isSafe ((Finding.ofOperations ops).map (·.severity))
      = isSafe ((Finding.ofOperations ops').map (·.severity)) := by
    rw [isSafe, isSafe, severities.contains_eq]
  constructor
  · rfl
  · rfl
  · exact perm
  · exact findings
  · simp only [ofOperations, Summary.ofFindings, Summary.ofSeverities, severities.count_eq]
  · exact safe
  · rfl
  · exact perm.countP_eq isProtected
  · exact perm.countP_eq fun op => !isProtected op
  · intro strict
    cases strict with
    | true =>
      have empty := findings.length_eq
      simp only [isBlocking, ofOperations, if_true, Bool.not_inj_iff]
      rw [Bool.eq_iff_iff, List.isEmpty_iff_length_eq_zero, List.isEmpty_iff_length_eq_zero, empty]
    | false => exact congrArg (!·) safe

/-- The verdict on a document does not depend on the order of its entries: with the entries of the
document, of its paths, of each path and of each operation in any order there is a report again,
with the same verdict on the same operations, and where no two declarations share a record key it is
the same report. -/
theorem verdict_ignores_layout [Host] {specPath : Option Path} {document other : Value} {r : Report}
    (keyed : document.isKeyed = true) (relaid : Value.Relaid 4 document other)
    (built : (ofDocument specPath document).outcome.1 = .ok r) :
    ∃ s, (ofDocument specPath other).outcome.1 = .ok s ∧ r.SameVerdict s
      ∧ (Declaration.Apart document → s = r) := by
  obtain ⟨ops, listed, made⟩ := ofDocument_eq_ok_iff.mp built
  obtain ⟨ops', listed', perm, same⟩ := normalize_relaid keyed relaid listed
  have version : (document.entries?.bind fun es => field? es "openapi").bind Value.text?
      = (other.entries?.bind fun es => field? es "openapi").bind Value.text? :=
    text_relaid (fieldOf?_relaid keyed relaid "openapi")
  refine ⟨_, ofDocument_eq_ok_iff.mpr ⟨ops', listed', rfl⟩, ?_, ?_⟩
  · rw [made, version]
    exact ofOperations_perm specPath _ perm
  · intro apart
    rw [made, version, same apart]

def reversedDocument : Value := .map [
  (.text "paths", .map [
    (.text "/a", .map [(.text "get", .map [])]),
    (.text "/b", .map [
      (.text "summary", .null),
      (.text "put", .map [(.text "requestBody", .null)]),
      (.text "get", .map [(.text "x-reason", .text "up"), (.text "x-public", .bool true)])])]),
  (.text "info", .map []), (.text "openapi", .text "3.0.0")]

theorem plain_relaid_reversed : Value.Relaid 4 plainDocument reversedDocument := by
  have same {depth : Nat} (e : Scalar × Value) : Value.UnderOneKey (Value.Relaid depth) e e :=
    ⟨rfl, Value.relaid_refl depth e.2⟩
  refine Value.relaid_of_reverse (.cons ⟨rfl, ?paths⟩ (.cons (same _) (.cons (same _) .nil)))
  refine Value.relaid_of_reverse (.cons (same _) (.cons ⟨rfl, ?item⟩ .nil))
  refine Value.relaid_of_reverse (.cons (same _) (.cons (same _) (.cons ⟨rfl, ?operation⟩ .nil)))
  exact Value.relaid_of_reverse (.cons (same _) (.cons (same _) .nil))

theorem plain_verdict_ignores_layout :
    plainDocument.isKeyed = true ∧ Value.Relaid 4 plainDocument reversedDocument
      ∧ ∃ r, (ofDocument none plainDocument).outcome.1 = .ok r
        ∧ (ofDocument none reversedDocument).outcome.1 = .ok r := by
  have keyed : plainDocument.isKeyed = true := rfl
  have built : (ofDocument none plainDocument).outcome.1
      = .ok (ofOperations none (some "3.0.0") plainOperations) := rfl
  have apart := Declaration.apart_of_plain keyed plainDocument_hasPlainKeys
  obtain ⟨s, again, -, same⟩ := verdict_ignores_layout keyed plain_relaid_reversed built
  exact ⟨keyed, plain_relaid_reversed, _, built, same apart ▸ again⟩

end Report
end ExposureLint
