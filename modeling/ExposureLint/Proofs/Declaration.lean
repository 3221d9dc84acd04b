import Mathlib
import ExposureLint.Proofs.MethodKey
import ExposureLint.Proofs.Outcome
import ExposureLint.Spec.Operations

/-!
What a document declares, read off the document alone: one declaration for each path and each method
under it that has a mapping, in document order. `Describes` says which record belongs to a
declaration, and the operations of a document are exactly the records of its declarations.
-/
namespace ExposureLint.Spec

def namedMethod? (key : Scalar) : Option Method :=
  match key.display? with
  | .ok t => Method.ofKey? t.lower
  | .error _ => none

/-- An operation as the document has it: the keys of its path and of its method, and its fields. -/
structure Declaration where
  path : Scalar
  key : Scalar
  method : Method
  named : namedMethod? key = some method
  fields : List (Scalar × Value)

/-- A field of a value, none where the value is no mapping. -/
def fieldOf? (v : Value) (name : Text) : Option Value := v.entries?.bind (field? · name)

/-- The entries of a value, none where it is no mapping. -/
def entriesOf (v : Option Value) : List (Scalar × Value) := (v.bind Value.entries?).getD []

def itemsOf (v : Option Value) : List Value := (v.bind Value.items?).getD []

namespace Declaration

def of? (path : Scalar) (entry : Scalar × Value) : Option Declaration :=
  match named : namedMethod? entry.1, entry.2.entries? with
  | some method, some fields => some ⟨path, entry.1, method, named, fields⟩
  | _, _ => none

theorem of?_eq_some {path key : Scalar} {value : Value} {m : Method} {fields : List (Scalar × Value)}
    (named : namedMethod? key = some m) (mapping : value.entries? = some fields) :
    of? path (key, value) = some ⟨path, key, m, named, fields⟩ := by
  unfold of?
  split
  · rename_i found there
    cases named.symm.trans found
    cases mapping.symm.trans there
    rfl
  · rename_i other
    exact absurd mapping (other m fields named)

theorem of?_eq_none {path key : Scalar} {value : Value}
    (unfit : namedMethod? key = none ∨ value.entries? = none) : of? path (key, value) = none := by
  unfold of?
  split
  · rename_i found there
    rcases unfit with unnamed | plain
    · cases unnamed.symm.trans found
    · cases plain.symm.trans there
  · rfl

theorem of?_fields {path : Scalar} {entry : Scalar × Value} {d : Declaration}
    (declared : of? path entry = some d) :
    d.path = path ∧ d.key = entry.1 ∧ entry.2.entries? = some d.fields := by
  unfold of? at declared
  split at declared
  · rename_i mapping
    cases declared
    exact ⟨rfl, rfl, mapping⟩
  · cases declared

def ofPath (item : Scalar × Value) : List Declaration :=
  (entriesOf (some item.2)).filterMap (of? item.1)

def all (document : Value) : List Declaration :=
  (entriesOf (fieldOf? document "paths")).flatMap ofPath

variable (document : Value) (d : Declaration)

/-- The requirements in force: those of the operation if it has a field for them, those of the
document otherwise. -/
def requirements : List Value :=
  match field? d.fields "security" with
  | some own => itemsOf (some own)
  | none => itemsOf (fieldOf? document "security")

/-- The schemes that the requirements in force name, in order and with repetitions. -/
def schemes : List Scalar :=
  (d.requirements document).flatMap fun r => (entriesOf (some r)).map (·.1)

def hasBody : Bool := (field? d.fields "requestBody").isSome

def hasPathParameter : Bool :=
  (itemsOf (field? d.fields "parameters")).any fun p =>
    ((fieldOf? p "in").bind Value.text?) == some (Text.ofString "path")

def isPublic : Bool :=
  match field? d.fields "x-public" with
  | some (.scalar (.bool true)) => true
  | _ => false

/-- The reason that is kept: that of a public operation, unless it is nothing. -/
def reason? : Option Value :=
  if d.isPublic then (field? d.fields "x-reason").filter fun v => !v.isNothing else none

/-- The record of a declaration. Paths, schemes and reasons are told by their texts, and a method by
its key in upper case. -/
structure Describes [Host] (document : Value) (d : Declaration) (op : Operation) : Prop where
  path : d.path.display? = .ok op.path
  method : ∃ t, d.key.display? = .ok t ∧ op.method = t.upperAscii
  hasBody : op.hasBody = d.hasBody
  hasPathParams : op.hasPathParams = (RawOperation.hasBraces op.path || d.hasPathParameter)
  security : List.Forall₂ (fun s t => s.display? = .ok t) (d.schemes document) op.security
  isPublic : op.isPublic = d.isPublic
  reason : d.reason?.mapM Value.display? = .ok op.reason

end Declaration

section
variable {document : Value} {top : List (Scalar × Value)} (mapping : document.entries? = some top)
include mapping

theorem defaultRequirements_items :
    (defaultRequirements top).items?.getD [] = itemsOf (fieldOf? document "security") := by
  simp only [defaultRequirements, itemsOf, fieldOf?, mapping, Option.bind_some]
  cases field? top "security" with
  | none => rfl
  | some v =>
    have empty : (Value.list []).items? = some [] := rfl
    cases listed : v.items? with
    | none => simp [listed, empty]
    | some items => simp [listed]

theorem schemeNames_requirements (d : Declaration) :
    schemeNames ((RawOperation.ofEntries d.fields).requirements (defaultRequirements top))
      = (d.schemes document).mapM Scalar.display? := by
  have inForce : ((RawOperation.ofEntries d.fields).requirements
      (defaultRequirements top)).items?.getD [] = d.requirements document := by
    simp only [RawOperation.requirements, RawOperation.ofEntries, Declaration.requirements]
    cases field? d.fields "security" with
    | none => exact defaultRequirements_items mapping
    | some own => rfl
  simp only [schemeNames, inForce]
  rfl

end

theorem ofName_eq_ok_iff {α : Type} {r : Except Numeral.Fault α} {x : α} :
    ofName r = .ok x ↔ r = .ok x :=
  mapError_eq_ok_iff

theorem hasPathParams_eq (d : Declaration) (path : Text) :
    (RawOperation.ofEntries d.fields).hasPathParams path
      = (RawOperation.hasBraces path || d.hasPathParameter) := by
  have parameter (p : Value) : RawOperation.isPathParameter p
      = (((fieldOf? p "in").bind Value.text?) == some (Text.ofString "path")) := by
    cases entries : p.entries? with
    | none => simp [RawOperation.isPathParameter, fieldOf?, field?, Value.find?, entries]
    | some fields =>
      simp only [RawOperation.isPathParameter, fieldOf?, entries, Option.getD_some, Option.bind_some]
      cases field? fields "in" with
      | none => rfl
      | some v =>
        cases v with
        | scalar s => cases s <;> rfl
        | _ => rfl
  simp only [RawOperation.hasPathParams, RawOperation.ofEntries, Declaration.hasPathParameter,
    itemsOf, funext parameter]

theorem isPublicOverride_eq (d : Declaration) :
    (RawOperation.ofEntries d.fields).isPublicOverride = d.isPublic := by
  simp only [RawOperation.isPublicOverride, RawOperation.ofEntries, Declaration.isPublic]
  cases field? d.fields "x-public" with
  | none => rfl
  | some v =>
    cases v with
    | scalar s =>
      cases s with
      | bool b => cases b <;> rfl
      | _ => rfl
    | _ => rfl

theorem publicReason_eq [Host] (d : Declaration) :
    (RawOperation.ofEntries d.fields).publicReason = d.reason?.mapM Value.display? := by
  simp only [RawOperation.publicReason, isPublicOverride_eq, Declaration.reason?]
  simp only [RawOperation.ofEntries]
  cases field? d.fields "x-reason" with
  | none => cases d.isPublic <;> rfl
  | some v =>
    cases d.isPublic <;> cases nothing : v.isNothing <;> simp [nothing, Option.filter] <;> rfl

theorem namedMethod?_eq_some_iff {key : Scalar} {m : Method} :
    namedMethod? key = some m ↔ ∃ t, key.display? = .ok t ∧ t.lowerAscii = m.key := by
  unfold namedMethod?
  cases key.display? with
  | error fault => simp
  | ok t => simp only [Method.ofKey?_lower_eq_some_iff, Except.ok.injEq, exists_eq_left']

theorem Declaration.Describes.method_eq_verb [Host] {document : Value} {d : Declaration}
    {op : Operation}
    (describes : d.Describes document op) : op.method = d.method.verb := by
  obtain ⟨t, shown, upper⟩ := describes.method
  obtain ⟨t', shown', named⟩ := namedMethod?_eq_some_iff.mp d.named
  cases shown.symm.trans shown'
  exact upper.trans (Method.upperAscii_eq_verb named)

section
variable [Host] {document : Value} {top : List (Scalar × Value)}
  (mapping : document.entries? = some top)
include mapping

theorem operation_eq_ok_iff (d : Declaration) {path method : Text} {op : Operation}
    (shownPath : d.path.display? = .ok path) (shownMethod : d.key.display? = .ok method) :
    operation (defaultRequirements top) path method (RawOperation.ofEntries d.fields) = .ok op
      ↔ d.Describes document op := by
  have verb : method.upper = method.upperAscii := by
    obtain ⟨t, shown, named⟩ := namedMethod?_eq_some_iff.mp d.named
    cases shownMethod.symm.trans shown
    exact Method.upper_eq_upperAscii named
  simp only [operation, verb, bind_eq_ok_iff, mapError_eq_ok_iff, ofName_eq_ok_iff, publicReason_eq,
    schemeNames_requirements mapping, mapM_eq_ok_iff, isPublicOverride_eq, hasPathParams_eq]
  constructor
  · rintro ⟨reason, kept, security, schemes, made⟩
    cases made
    exact ⟨shownPath, ⟨method, shownMethod, rfl⟩, rfl, rfl, schemes, rfl, kept⟩
  · rintro ⟨path', ⟨method', shown, upper⟩, body, params, schemes, isPublic, kept⟩
    cases shownPath.symm.trans path'
    cases shownMethod.symm.trans shown
    refine ⟨op.reason, kept, op.security, schemes, ?_⟩
    cases op
    simp only at upper body params isPublic
    subst upper body params isPublic
    rfl

theorem entryOperation_eq_ok_iff (path : Scalar) (entry : Scalar × Value) (ops : List Operation) :
    (∃ o, entryOperation (defaultRequirements top) path entry = .ok o ∧ o.toList = ops)
      ↔ (∃ t, entry.1.display? = .ok t)
        ∧ List.Forall₂ (Declaration.Describes document) (Declaration.of? path entry).toList ops := by
  obtain ⟨key, value⟩ := entry
  cases shown : key.display? with
  | error fault =>
    simp [entryOperation, ofName, methodOf, shown, bind, Except.bind, Except.mapError]
  | ok t =>
    have method : ofName (methodOf key)
        = .ok (if (Method.ofKey? t.lower).isSome then some t else none) := by
      simp [ofName, methodOf, shown, bind, Except.bind, Except.mapError, pure, Except.pure]
    have naming : namedMethod? key = Method.ofKey? t.lower := by
      simp [namedMethod?, shown]
    -- An entry that is passed over leads to no operation, and it is no declaration.
    have skip (unfit : namedMethod? key = none ∨ value.entries? = none) :
        entryOperation (defaultRequirements top) path (key, value) = .ok none := by
      simp only [entryOperation, method, bind, Except.bind]
      rcases unfit with unnamed | plain
      · simp [← naming, unnamed, pure, Except.pure]
      · simp [plain, pure, Except.pure]
    cases named : namedMethod? key with
    | none => simp [skip (.inl named), Declaration.of?_eq_none (.inl named), eq_comm]
    | some m =>
      cases mapping' : value.entries? with
      | none => simp [skip (.inr mapping'), Declaration.of?_eq_none (.inr mapping'), eq_comm]
      | some fields =>
        rw [Declaration.of?_eq_some named mapping']
        have isNamed : (Method.ofKey? t.lower).isSome = true := by simp [← naming, named]
        simp only [entryOperation, method, isNamed, if_true, mapping', bind_eq_ok_iff,
          ofName_eq_ok_iff, map_eq_ok_iff, Except.ok.injEq, exists_eq_left']
        constructor
        · rintro ⟨_, ⟨text, shownPath, op, made, rfl⟩, rfl⟩
          have describes := (operation_eq_ok_iff mapping ⟨path, key, m, named, fields⟩ shownPath
            shown).mp made
          exact ⟨⟨t, rfl⟩, .cons describes .nil⟩
        · rintro ⟨_, related⟩
          obtain ⟨op, _, describes, nothing, rfl⟩ := List.forall₂_cons_left_iff.mp related
          cases nothing
          exact ⟨some op, ⟨op.path, describes.path, op,
            (operation_eq_ok_iff mapping _ describes.path shown).mpr describes, rfl⟩, rfl⟩

theorem pathOperations_eq_ok_iff (item : Scalar × Value) (ops : List Operation) :
    pathOperations (defaultRequirements top) item = .ok ops
      ↔ (∀ entry ∈ entriesOf (some item.2), ∃ t, entry.1.display? = .ok t)
        ∧ List.Forall₂ (Declaration.Describes document) (Declaration.ofPath item) ops := by
  have row := mapM_flatMap_eq_ok_iff (entryOperation_eq_ok_iff mapping item.1)
    (entriesOf (some item.2)) ops
  simp only [pathOperations, bind_eq_ok_iff, Declaration.ofPath, pure, Except.pure,
    Except.ok.injEq, List.filterMap_eq_flatMap_toList]
  exact row

/-- The operations in document order are the records of the declarations, one for each. They can be
listed just when every key under a path has a text and every declaration has a record. -/
theorem operationsInOrder_eq_ok_iff (ops : List Operation) :
    operationsInOrder top = .ok ops
      ↔ (∀ item ∈ entriesOf (fieldOf? document "paths"),
          ∀ entry ∈ entriesOf (some item.2), ∃ t, entry.1.display? = .ok t)
        ∧ List.Forall₂ (Declaration.Describes document) (Declaration.all document) ops := by
  have each (item : Scalar × Value) (zs : List Operation) :
      (∃ found, pathOperations (defaultRequirements top) item = .ok found ∧ id found = zs)
        ↔ (∀ entry ∈ entriesOf (some item.2), ∃ t, entry.1.display? = .ok t)
          ∧ List.Forall₂ (Declaration.Describes document) (Declaration.ofPath item) zs := by
    simp only [id_eq, exists_eq_right]
    exact pathOperations_eq_ok_iff mapping item zs
  have row := mapM_flatMap_eq_ok_iff each (entriesOf (fieldOf? document "paths")) ops
  have paths : ((field? top "paths").bind Value.entries?).getD []
      = entriesOf (fieldOf? document "paths") := by
    simp [entriesOf, fieldOf?, mapping]
  simp only [operationsInOrder, paths, bind_eq_ok_iff, pure, Except.pure, Except.ok.injEq]
  simp only [List.flatMap_id] at row
  exact row

end

end ExposureLint.Spec
