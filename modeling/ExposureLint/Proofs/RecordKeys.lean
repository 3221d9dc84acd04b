import Mathlib
import ExposureLint.Proofs.DistinctKeys
import ExposureLint.Proofs.Normalization

/-!
When the records of a document are told apart by path and method. A record is known by the text of
its path and its method in upper case, so keys that differ in the document may come to one record
key: `get` and `GET`, or the integer 1 and the text "1".
-/
namespace ExposureLint.Spec

namespace Declaration
variable {document : Value} {d e : Declaration} {op : Operation}

/-- The texts by which the record of a declaration is known, where they exist. -/
def recordKey? (d : Declaration) : Option (Text × Text) := do
  let path ← d.path.display?.toOption
  let key ← d.key.display?.toOption
  return (path, key.upperAscii)

theorem Describes.recordKey? [Host] (describes : d.Describes document op) :
    d.recordKey? = some (operationKey op) := by
  obtain ⟨t, shown, upper⟩ := describes.method
  simp [Declaration.recordKey?, describes.path, shown, Except.toOption, operationKey, upper]

theorem recordKey?_plain {path key : Scalar} {t : Text} {m : Method} {value : Value}
    (declared : of? path (key, value) = some d) (plain : path = .text t)
    (named : key = .text m.key) : d.recordKey? = some (t, m.verb) := by
  obtain ⟨samePath, sameKey, -⟩ := of?_fields declared
  simp only at sameKey
  simp [Declaration.recordKey?, samePath, sameKey, plain, named, Scalar.display?, Except.toOption,
    Method.verb]

/-- Every declaration of a document can be told from every other by what its record is known by. -/
def Apart (document : Value) : Prop := ((all document).map recordKey?).Nodup

theorem recordKeys_perm [Host] {ops : List Operation} (listed : normalize document = .ok ops) :
    ((ops.map operationKey).map some).Perm ((all document).map recordKey?) := by
  obtain ⟨-, -, records, described, rfl⟩ := normalize_eq_ok_iff.mp listed
  have keys : (records.map operationKey).map some = (all document).map recordKey? := by
    clear listed
    generalize all document = declared at described
    induction described with
    | nil => rfl
    | cons here _ ih => rw [List.map_cons, List.map_cons, List.map_cons, ih, here.recordKey?]
  rw [← keys]
  exact ((sortBy_perm operationKey records).map _).map _

theorem nodup_recordKeys_iff [Host] {ops : List Operation} (listed : normalize document = .ok ops) :
    (ops.map operationKey).Nodup ↔ Apart document := by
  rw [Apart, ← (recordKeys_perm listed).nodup_iff, List.nodup_map_iff (Option.some_injective _)]

end Declaration

/-- The keys of a description as the standard has them: paths are texts, and a method is named by a
text in lower case. -/
structure HasPlainKeys (document : Value) : Prop where
  paths : ∀ item ∈ entriesOf (fieldOf? document "paths"), ∃ t, item.1 = .text t
  methods : ∀ item ∈ entriesOf (fieldOf? document "paths"), ∀ entry ∈ entriesOf (some item.2),
    ∀ m, namedMethod? entry.1 = some m → entry.1 = .text m.key

section
variable {document : Value}

theorem fieldOf?_keyed {v w : Value} {name : Text} (keyed : v.isKeyed = true)
    (found : fieldOf? v name = some w) : w.isKeyed = true := by
  obtain ⟨entries, mapping, there⟩ := Option.bind_eq_some_iff.mp found
  obtain ⟨e, member, rfl⟩ := Option.map_eq_some_iff.mp there
  exact (Value.entries?_keyed keyed mapping).2 e (List.mem_of_find?_eq_some member)

theorem entriesOf_keyed {o : Option Value} (keyed : ∀ v, o = some v → v.isKeyed = true) :
    Value.DistinctKeys (entriesOf o) ∧ ∀ e ∈ entriesOf o, e.2.isKeyed = true := by
  unfold entriesOf
  cases mapping : o.bind Value.entries? with
  | none => exact ⟨List.Pairwise.nil, List.forall_mem_nil _⟩
  | some entries =>
    obtain ⟨v, here, there⟩ := Option.bind_eq_some_iff.mp mapping
    exact Value.entries?_keyed (keyed v here) there

namespace Declaration

theorem ofPath_distinct {item : Scalar × Value}
    (distinct : Value.DistinctKeys (entriesOf (some item.2))) :
    (ofPath item).Pairwise fun d e => d.key.sameKey e.key = false := by
  refine List.pairwise_filterMap.mpr (distinct.imp ?_)
  intro a b differ d first e second
  rw [(of?_fields first).2.1, (of?_fields second).2.1]
  exact differ

theorem exists_recordKey? (plain : HasPlainKeys document) {item : Scalar × Value}
    (here : item ∈ entriesOf (fieldOf? document "paths")) {d : Declaration}
    (declared : d ∈ ofPath item) :
    ∃ t, item.1 = .text t ∧ d.key = .text d.method.key ∧ d.recordKey? = some (t, d.method.verb) := by
  obtain ⟨t, path⟩ := plain.paths item here
  obtain ⟨entry, there, made⟩ := List.mem_filterMap.mp declared
  obtain ⟨-, key, -⟩ := of?_fields made
  have named := plain.methods item here entry there d.method (key ▸ d.named)
  exact ⟨t, path, key.trans named, recordKey?_plain made path named⟩

/-- With distinct keys, written as the standard has them, no two declarations come to one record
key: of two at one path the methods differ, and otherwise the paths do. -/
theorem apart_of_plain (keyed : document.isKeyed = true) (plain : HasPlainKeys document) :
    Apart document := by
  obtain ⟨distinct, inside⟩ := entriesOf_keyed (o := fieldOf? document "paths") fun v found =>
    fieldOf?_keyed keyed found
  rw [Apart, List.Nodup, List.pairwise_map, all, List.pairwise_flatMap]
  constructor
  · intro item here
    have keys := (entriesOf_keyed (o := some item.2) fun v same =>
      Option.some.inj same ▸ inside item here).1
    refine (ofPath_distinct keys).imp_of_mem ?_
    intro d e first second differ same
    obtain ⟨t, -, dKey, dRecord⟩ := exists_recordKey? plain here first
    obtain ⟨u, -, eKey, eRecord⟩ := exists_recordKey? plain here second
    rw [dRecord, eRecord] at same
    have verbs : d.method.verb = e.method.verb := congrArg Prod.snd (Option.some.inj same)
    have methods : d.method = e.method := Option.some.inj
      ((Method.ofVerb?_verb d.method).symm.trans (verbs ▸ Method.ofVerb?_verb e.method))
    rw [dKey, eKey, methods] at differ
    simp [Scalar.sameKey] at differ
  · refine distinct.imp_of_mem ?_
    intro a b first second differ d here e there same
    obtain ⟨t, aKey, -, dRecord⟩ := exists_recordKey? plain first here
    obtain ⟨u, bKey, -, eRecord⟩ := exists_recordKey? plain second there
    rw [dRecord, eRecord] at same
    have paths : t = u := congrArg Prod.fst (Option.some.inj same)
    rw [aKey, bKey, paths] at differ
    simp [Scalar.sameKey] at differ

end Declaration

/-- A record key belongs to as many records as there are declarations that come to it. So each has
one record exactly where the declarations come to different ones, which distinct keys make sure of
where they are written as the standard has them. -/
theorem recordKeys_exact [Host] {ops : List Operation} (listed : normalize document = .ok ops) :
    (∀ k, (ops.map operationKey).count k
        = ((Declaration.all document).map Declaration.recordKey?).count (some k))
      ∧ ((ops.map operationKey).Nodup ↔ Declaration.Apart document)
      ∧ (document.isKeyed = true → HasPlainKeys document → (ops.map operationKey).Nodup) := by
  have exact := Declaration.nodup_recordKeys_iff listed
  refine ⟨?_, exact, ?_⟩
  · intro k
    rw [← (Declaration.recordKeys_perm listed).count_eq,
      List.count_map_of_injective _ _ (Option.some_injective _)]
  · intro keyed plain
    exact exact.mpr (Declaration.apart_of_plain keyed plain)

def plainDocument : Value := .map [
  (.text "openapi", .text "3.0.0"), (.text "info", .map []),
  (.text "paths", .map [
    (.text "/b", .map [
      (.text "get", .map [(.text "x-public", .bool true), (.text "x-reason", .text "up")]),
      (.text "put", .map [(.text "requestBody", .null)]),
      (.text "summary", .null)]),
    (.text "/a", .map [(.text "get", .map [])])])]

def plainOperations : List Operation := [
  ⟨"GET", "/a", false, false, [], false, none⟩,
  ⟨"GET", "/b", false, false, [], true, some "up"⟩,
  ⟨"PUT", "/b", true, false, [], false, none⟩]

theorem plainDocument_hasPlainKeys : HasPlainKeys plainDocument := by
  have get (m : Method) (named : namedMethod? (.text "get") = some m) :
      Scalar.text "get" = .text m.key := by
    cases named
    rfl
  have put (m : Method) (named : namedMethod? (.text "put") = some m) :
      Scalar.text "put" = .text m.key := by
    cases named
    rfl
  have summary (m : Method) (named : namedMethod? (.text "summary") = some m) :
      Scalar.text "summary" = .text m.key := by
    cases named
  constructor
  · exact List.forall_mem_cons.mpr ⟨⟨_, rfl⟩, List.forall_mem_singleton.mpr ⟨_, rfl⟩⟩
  · refine List.forall_mem_cons.mpr ⟨?_, List.forall_mem_singleton.mpr ?_⟩
    · exact List.forall_mem_cons.mpr ⟨get, List.forall_mem_cons.mpr
        ⟨put, List.forall_mem_singleton.mpr summary⟩⟩
    · exact List.forall_mem_singleton.mpr get

theorem plain_recordKeys_exact :
    normalize plainDocument = .ok plainOperations
      ∧ plainDocument.isKeyed = true ∧ HasPlainKeys plainDocument
      ∧ (plainOperations.map operationKey).Nodup := by
  have listed : normalize plainDocument = .ok plainOperations := rfl
  have keyed : plainDocument.isKeyed = true := rfl
  exact ⟨listed, keyed, plainDocument_hasPlainKeys,
    (recordKeys_exact listed).2.2 keyed plainDocument_hasPlainKeys⟩

def twoCasesDocument : Value := .map [
  (.text "openapi", .text "3.0.0"), (.text "info", .map []),
  (.text "paths", .map [(.text "/a", .map [(.text "get", .map []), (.text "GET", .map [])])])]

theorem two_cases_one_record_key :
    twoCasesDocument.isKeyed = true ∧ validate twoCasesDocument = .ok "3.0.0"
      ∧ ∃ ops, normalize twoCasesDocument = .ok ops ∧ ¬ (ops.map operationKey).Nodup := by
  refine ⟨rfl, rfl, _, rfl, ?_⟩
  decide

end
end ExposureLint.Spec
