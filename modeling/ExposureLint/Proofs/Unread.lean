import Mathlib
import ExposureLint.Proofs.SortedRecords

/-!
What the rules do not read has no influence. Documents that agree in what is read have the same
operations and findings, and a document may be trimmed to that part without a change to its report.
-/
namespace ExposureLint

namespace Spec

variable {document other : Value} {ops : List Operation}

/-- Two documents that agree in what the rules read: the default requirements, and the declarations
in their order up to what is read of each. -/
structure ReadAlike (document other : Value) : Prop where
  defaults : defaults document = defaults other
  declarations : List.Forall₂ Declaration.ReadsAlike (Declaration.all document)
    (Declaration.all other)

theorem ReadAlike.describes [Host] (alike : ReadAlike document other)
    (described : List.Forall₂ (Declaration.Describes document) (Declaration.sorted document) ops) :
    List.Forall₂ (Declaration.Describes other) (Declaration.sorted other) ops := by
  have rows : List.Forall₂ Declaration.ReadsAlike (Declaration.sorted document)
      (Declaration.sorted other) :=
    forall₂_sortBy (fun _ _ same => same.sortKey_eq) alike.declarations
  have carry (d e : Declaration) (op : Operation) (same : d.ReadsAlike e)
      (here : d.Describes document op) : e.Describes other op :=
    here.of_readsAlike same alike.defaults
  exact forall₂_carry carry rows described

def readNames : List Text := ["requestBody", "parameters", "security", "x-public", "x-reason"]

/-- The fields that are read, with nothing in place of a body. -/
def trimmedFields (fields : List (Scalar × Value)) : List (Scalar × Value) :=
  readNames.filterMap fun name => (field? fields name).map fun v =>
    (.text name, if name = Text.ofString "requestBody" then .null else v)

def trimmedPath (item : Scalar × Value) : Scalar × Value :=
  (item.1, .map ((Declaration.ofPath item).map fun d => (d.key, .map (trimmedFields d.fields))))

def trimmed (document : Value) : Value := .map [
  (.text "security", .list (defaults document)),
  (.text "paths", .map ((entriesOf (fieldOf? document "paths")).map trimmedPath))]

theorem field?_filterMap (fields : List (Scalar × Value)) (change : Text → Value → Value)
    (names : List Text) (name : Text) :
    field? (names.filterMap fun n => (field? fields n).map fun v => (.text n, change n v)) name
      = if name ∈ names then (field? fields name).map (change name) else none := by
  induction names with
  | nil => rfl
  | cons n rest ih =>
    cases found : field? fields n with
    | none =>
      simp only [List.filterMap_cons, found, Option.map_none, ih]
      by_cases same : name = n
      · simp [same, found]
      · simp [same]
    | some v =>
      simp only [List.filterMap_cons, found, Option.map_some]
      rw [field?, Value.find?_cons_text, ← field?, ih]
      by_cases same : name = n
      · simp [same, found]
      · have differ : n ≠ name := Ne.symm same
        simp [same, differ]

theorem field?_trimmedFields (fields : List (Scalar × Value)) {name : Text}
    (read : name ∈ readNames) : field? (trimmedFields fields) name
      = (field? fields name).map fun v =>
        if name = Text.ofString "requestBody" then .null else v := by
  rw [trimmedFields, field?_filterMap fields fun name v =>
    if name = Text.ofString "requestBody" then .null else v, if_pos read]

theorem field?_trimmedFields_of_ne (fields : List (Scalar × Value)) {name : Text}
    (read : name ∈ readNames) (other : name ≠ Text.ofString "requestBody") :
    field? (trimmedFields fields) name = field? fields name := by
  rw [field?_trimmedFields fields read]
  simp [other]

namespace Declaration

theorem readsAlike_trimmed (d : Declaration) :
    d.ReadsAlike (d.withFields (trimmedFields d.fields)) where
  path := rfl
  key := rfl
  hasBody := by
    simp only [hasBody, withFields]
    rw [field?_trimmedFields d.fields (by decide), Option.isSome_map]
  parameters := (field?_trimmedFields_of_ne d.fields (by decide) (by decide)).symm
  security := (field?_trimmedFields_of_ne d.fields (by decide) (by decide)).symm
  isPublic := (field?_trimmedFields_of_ne d.fields (by decide) (by decide)).symm
  reason := (field?_trimmedFields_of_ne d.fields (by decide) (by decide)).symm

theorem ofPath_trimmedPath (item : Scalar × Value) :
    ofPath (trimmedPath item)
      = (ofPath item).map fun d => d.withFields (trimmedFields d.fields) := by
  have entries : entriesOf (some (trimmedPath item).2)
      = (ofPath item).map fun d => (d.key, .map (trimmedFields d.fields)) := rfl
  have each (d : Declaration) (declared : d ∈ ofPath item) :
      of? item.1 (d.key, .map (trimmedFields d.fields))
        = some (d.withFields (trimmedFields d.fields)) := by
    rw [of?_eq_some d.named rfl, ← path_of_mem_ofPath declared]
    rfl
  rw [ofPath, entries, List.filterMap_map, ← List.filterMap_eq_map]
  exact List.filterMap_congr each

theorem all_trimmed (document : Value) :
    all (trimmed document) = (all document).map fun d => d.withFields (trimmedFields d.fields) := by
  have paths : entriesOf (fieldOf? (trimmed document) "paths")
      = (entriesOf (fieldOf? document "paths")).map trimmedPath := rfl
  simp only [all, paths, List.flatMap_map, ofPath_trimmedPath, List.map_flatMap]

end Declaration

theorem readAlike_trimmed (document : Value) : ReadAlike document (trimmed document) where
  defaults := rfl
  declarations := by
    rw [Declaration.all_trimmed, List.forall₂_map_right_iff, List.forall₂_same]
    exact fun d _ => d.readsAlike_trimmed

theorem keysHaveTexts_trimmed (document : Value) : KeysHaveTexts (trimmed document) := by
  have paths : entriesOf (fieldOf? (trimmed document) "paths")
      = (entriesOf (fieldOf? document "paths")).map trimmedPath := rfl
  intro item here entry there
  rw [paths] at here
  obtain ⟨whole, -, rfl⟩ := List.mem_map.mp here
  obtain ⟨d, -, rfl⟩ := List.mem_map.mp there
  -- Only keys that name methods are left, and a name is a text.
  obtain ⟨t, shown, -⟩ := namedMethod?_eq_some_iff.mp d.named
  exact ⟨t, shown⟩

end Spec

namespace Report

open Spec

variable {specPath otherPath : Option Path} {document : Value} {r : Report}

/-- Two reports with one content, on documents of whatever place and version. -/
structure SameContent (r s : Report) : Prop where
  operations : r.operations = s.operations
  findings : r.findings = s.findings
  summary : r.summary = s.summary
  safe : r.safe = s.safe
  protectedRoutes : r.protectedRoutes = s.protectedRoutes
  publicRoutes : r.publicRoutes = s.publicRoutes

theorem sameContent_ofOperations (first second : Option Text) (ops : List Operation) :
    (ofOperations specPath first ops).SameContent (ofOperations otherPath second ops) :=
  ⟨rfl, rfl, rfl, rfl, rfl, rfl⟩

/-- A report tells nothing of what the rules do not read: another document with the same default
requirements and the same declarations, up to what is read of them, has the same content, and so has
the document that is trimmed to what is read, of which there always is a report. -/
theorem unread_has_no_influence [Host] (built : (ofDocument specPath document).outcome.1 = .ok r) :
    (∀ otherPath other s, ReadAlike document other →
        (ofDocument otherPath other).outcome.1 = .ok s → r.SameContent s)
      ∧ ∃ s, (ofDocument specPath (trimmed document)).outcome.1 = .ok s ∧ r.SameContent s := by
  obtain ⟨-, -, described, made⟩ := ofDocument_eq_ok_iff_sorted.mp built
  constructor
  · intro otherPath other s alike built'
    obtain ⟨-, -, described', made'⟩ := ofDocument_eq_ok_iff_sorted.mp built'
    have operations : r.operations = s.operations :=
      Declaration.describes_rightUnique other (alike.describes described) described'
    rw [made, made', operations]
    exact sameContent_ofOperations _ _ _
  · have kept := (readAlike_trimmed document).describes described
    refine ⟨ofOperations specPath none r.operations, ?_, ?_⟩
    · exact ofDocument_eq_ok_iff_sorted.mpr
        ⟨⟨_, rfl⟩, keysHaveTexts_trimmed document, kept, rfl⟩
    · rw [made]
      exact sameContent_ofOperations _ _ _

/-- The sample with much around it that is not read: another version, components, parameters of a
path, a method that is not supported, and in the operations a body, a key that is no text, a vendor
extension and names that only look like those of fields. -/
def noisyDocument : Value := .map [
  (.text "openapi", .text "3.1.0"), (.text "info", .map []), (.text "components", .map []),
  (.text "security", .list [.map [(.text "key", .list [])]]),
  (.text "paths", .map [
    (.text "/users", .map [
      (.text "parameters", .list [.map [(.text "in", .text "path")]]),
      (.text "Get", .map [
        (.int 1, .null), (.text "x-reason", .list [.text "up"]), (.text "x-public", .bool true)]),
      (.text "trace", .map [(.text "requestBody", .null)]),
      (.text "get", .map [
        (.text "request_body", .map []), (.text "x_public", .bool true),
        (.text "x_reason", .text "up"), (.text "security", .null)])]),
    (.text "/items/\x7bid\x7d", .map [
      (.text "PUT", .map [
        (.text "x-rate", .scalar (.int 5)), (.text "requestBody", .map [(.text "content", .null)]),
        (.text "security", .list [])])])])]

theorem sample_readAlike_noisy : ReadAlike sampleDocument noisyDocument where
  defaults := by
    have sample : defaults sampleDocument = [.map [(.text "key", .list [])]] := rfl
    have noisy : defaults noisyDocument = [.map [(.text "key", .list [])]] := rfl
    rw [sample, noisy]
  declarations := by
    have noisy : Declaration.all noisyDocument = [
        ⟨.text "/users", .text "Get", .get, rfl, [
          (.int 1, .null), (.text "x-reason", .list [.text "up"]), (.text "x-public", .bool true)]⟩,
        ⟨.text "/users", .text "get", .get, rfl, [
          (.text "request_body", .map []), (.text "x_public", .bool true),
          (.text "x_reason", .text "up"), (.text "security", .null)]⟩,
        ⟨.text "/items/\x7bid\x7d", .text "PUT", .put, rfl, [
          (.text "x-rate", .scalar (.int 5)),
          (.text "requestBody", .map [(.text "content", .null)]),
          (.text "security", .list [])]⟩] := rfl
    rw [all_sample, noisy]
    refine .cons ?_ (.cons ?_ (.cons ?_ .nil))
    all_goals constructor <;>
      simp [sampleWrite, Declaration.hasBody, field?, Value.find?_cons_text, Text.ofString_inj]

theorem noise_has_no_influence :
    ReadAlike sampleDocument noisyDocument
      ∧ ∃ r s, (ofDocument none sampleDocument).outcome.1 = .ok r
        ∧ (ofDocument none noisyDocument).outcome.1 = .ok s ∧ r.SameContent s := by
  have built : (ofDocument none sampleDocument).outcome.1
      = .ok (ofOperations none (some "3.0.0") sampleOperations) := rfl
  have built' : (ofDocument none noisyDocument).outcome.1
      = .ok (ofOperations none (some "3.1.0") sampleOperations) := rfl
  have same := (unread_has_no_influence built).1 _ _ _ sample_readAlike_noisy built'
  exact ⟨sample_readAlike_noisy, _, _, built, built', same⟩

end Report
end ExposureLint
