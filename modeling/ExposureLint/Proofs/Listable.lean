import Mathlib
import ExposureLint.Proofs.Normalization
import ExposureLint.Proofs.Shown

/-!
When the operations of a document can be listed. One obstacle is an integer without a text, in one
of the places whose texts are taken: the keys under a path, the key of a path that declares an
operation, the names of schemes in force, and the reasons that are kept. The other is a reason that
is deeper than there is room. There is no third.
-/
namespace ExposureLint.Spec

variable {document : Value}

namespace Declaration
variable (document) (d : Declaration)

/-- The scalars whose texts go into the record of a declaration. -/
def told : List Scalar :=
  d.path :: d.schemes document ++ (d.reason?.map Value.shown).getD []

section
variable [Host]

/-- There is room for the text of the reason that is kept. -/
def HasRoom : Prop := ∀ v, d.reason? = some v → v.depth ≤ Host.tellingRoom v

/-- Why a declaration has no record. -/
inductive Lacks : Value.Fault → Prop
  | text {s : Scalar} (told : s ∈ d.told document) (long : ¬ s.IsWritable) :
    Lacks (.number .unwritable)
  | room {v : Value} (kept : d.reason? = some v) (deep : Host.tellingRoom v < v.depth) :
    Lacks .tooDeep

theorem exists_reason_iff :
    (∃ r, d.reason?.mapM Value.display? = .ok r)
      ↔ (∀ s ∈ (d.reason?.map Value.shown).getD [], s.IsWritable) ∧ d.HasRoom := by
  unfold HasRoom
  cases d.reason? with
  | none => simp [pure, Except.pure]
  | some v =>
    have shown := v.exists_display?_iff
    rw [Value.IsTellable] at shown
    simp only [Option.mapM_some, map_eq_ok_iff, Option.map_some, Option.getD_some,
      Option.some.injEq, forall_eq', ← shown]
    simp

theorem exists_describes_iff :
    (∃ op, d.Describes document op) ↔ (∀ s ∈ d.told document, s.IsWritable) ∧ d.HasRoom := by
  have schemes : (∃ names, List.Forall₂ (fun s t => s.display? = .ok t) (d.schemes document) names)
      ↔ ∀ s ∈ d.schemes document, s.IsWritable := by
    simp only [exists_forall₂_iff, Scalar.exists_display?_iff]
  rw [told, List.forall_mem_append, List.forall_mem_cons, and_assoc, ← schemes,
    ← d.exists_reason_iff, ← d.path.exists_display?_iff]
  constructor
  · rintro ⟨op, describes⟩
    exact ⟨⟨⟨_, describes.path⟩, _, describes.security⟩, _, describes.reason⟩
  · rintro ⟨⟨⟨path, shown⟩, names, named⟩, r, kept⟩
    obtain ⟨t, method, -⟩ := namedMethod?_eq_some_iff.mp d.named
    exact ⟨⟨t.upperAscii, path, d.hasBody, RawOperation.hasBraces path || d.hasPathParameter,
      names, d.isPublic, r⟩, shown, ⟨t, method, rfl⟩, rfl, rfl, named, rfl, kept⟩

variable {document d} in
theorem name_yields {s : Scalar} (named : s ∈ d.told document) :
    FailsOnly (fun fault => d.Lacks document (.number fault)) s.display? :=
  s.display?_fails.allow fun _ fails => fails.1 ▸ .text named fails.2

theorem reason_yields : FailsOnly (d.Lacks document) (d.reason?.mapM Value.display?) := by
  cases kept : d.reason? with
  | none => exact .ok trivial
  | some v =>
    refine Yields.map (v.display?_yields.allow fun _ arises => ?_) fun _ _ => trivial
    cases arises with
    | number shown long =>
      exact .text (List.mem_append_right _ (by simpa [kept] using shown)) long
    | tooDeep beyond => exact .room kept beyond

end
end Declaration

section
variable [Host]

/-- Every scalar whose text is taken has one, and there is room for every reason that is kept. -/
structure Listable (document : Value) : Prop where
  keys : ∀ item ∈ entriesOf (fieldOf? document "paths"),
    ∀ entry ∈ entriesOf (some item.2), entry.1.IsWritable
  told : ∀ d ∈ Declaration.all document, ∀ s ∈ d.told document, s.IsWritable
  room : ∀ d ∈ Declaration.all document, d.HasRoom

/-- What stands in the way of a list: a key without a text, or a declaration without a record. -/
inductive Obstructs (document : Value) : Value.Fault → Prop
  | key {item entry : Scalar × Value} (here : item ∈ entriesOf (fieldOf? document "paths"))
    (there : entry ∈ entriesOf (some item.2)) (long : ¬ entry.1.IsWritable) :
    Obstructs document (.number .unwritable)
  | record {d : Declaration} {fault : Value.Fault} (declared : d ∈ Declaration.all document)
    (lacks : d.Lacks document fault) : Obstructs document fault

theorem exists_normalize_iff {top : List (Scalar × Value)} (mapping : document.entries? = some top) :
    (∃ ops, normalize document = .ok ops) ↔ Listable document := by
  have keys : KeysHaveTexts document ↔ ∀ item ∈ entriesOf (fieldOf? document "paths"),
      ∀ entry ∈ entriesOf (some item.2), entry.1.IsWritable := by
    simp only [KeysHaveTexts, Scalar.exists_display?_iff]
  have records :
      (∃ ops, List.Forall₂ (Declaration.Describes document) (Declaration.all document) ops)
        ↔ ∀ d ∈ Declaration.all document,
          (∀ s ∈ d.told document, s.IsWritable) ∧ d.HasRoom := by
    simp only [exists_forall₂_iff, Declaration.exists_describes_iff]
  constructor
  · rintro ⟨ops, listed⟩
    obtain ⟨-, texts, described⟩ := normalize_eq_ok_iff.mp listed
    have each := records.mp ⟨_, described.choose_spec.1⟩
    exact ⟨keys.mp texts, fun d declared => (each d declared).1,
      fun d declared => (each d declared).2⟩
  · rintro ⟨writable, told, room⟩
    obtain ⟨ops, described⟩ := records.mpr fun d declared => ⟨told d declared, room d declared⟩
    exact ⟨_, normalize_eq_ok_iff.mpr ⟨⟨top, mapping⟩, keys.mpr writable, ops, described, rfl⟩⟩

def IsMissing (document : Value) (o : Obstacle) : Prop :=
  ∃ fault, Obstructs document fault ∧ o = .text fault

theorem text_yields {α : Type} {x : Except Value.Fault α}
    (yields : FailsOnly (Obstructs document) x) :
    FailsOnly (IsMissing document) (x.mapError Obstacle.text) :=
  yields.mapError fun fault obstructs => ⟨fault, obstructs, rfl⟩

theorem ofName_yields {α : Type} {Q : α → Prop} {x : Except Numeral.Fault α}
    (yields : Yields (fun fault => Obstructs document (.number fault)) Q x) :
    Yields (IsMissing document) Q (ofName x) :=
  yields.mapError fun fault obstructs => ⟨.number fault, obstructs, rfl⟩

omit [Host] in
theorem methodOf_yields (key : Scalar) :
    Yields (fun fault => fault = .unwritable ∧ ¬ key.IsWritable)
      (fun method => method.isSome → (namedMethod? key).isSome) (methodOf key) := by
  rw [methodOf, namedMethod?]
  cases shown : key.display? with
  | error fault => exact .error (key.display?_fails.of_error shown)
  | ok t =>
    refine .ok fun found => ?_
    by_contra unnamed
    simp only [Bool.not_eq_true] at unnamed
    simp [unnamed] at found

section
variable {top : List (Scalar × Value)} (mapping : document.entries? = some top)
include mapping

theorem operation_yields {d : Declaration} (declared : d ∈ Declaration.all document)
    (path method : Text) :
    FailsOnly (IsMissing document) (operation (defaultRequirements top) path method
      (RawOperation.ofEntries d.fields)) := by
  have reason := d.reason_yields document
  have names : FailsOnly (fun fault => d.Lacks document (.number fault))
      ((d.schemes document).mapM Scalar.display?) :=
    (Yields.mapM fun s named => Declaration.name_yields (List.mem_append_left _
      (List.mem_cons_of_mem d.path named))).weaken fun _ _ => trivial
  rw [operation, publicReason_eq, schemeNames_requirements mapping]
  refine (text_yields (reason.allow fun _ lacks => .record declared lacks)).bind fun _ _ => ?_
  refine (ofName_yields (names.allow fun _ lacks => .record declared lacks)).bind fun _ _ => ?_
  exact .ok trivial

theorem entryOperation_yields {item entry : Scalar × Value}
    (here : item ∈ entriesOf (fieldOf? document "paths")) (there : entry ∈ entriesOf (some item.2)) :
    FailsOnly (IsMissing document) (entryOperation (defaultRequirements top) item.1 entry) := by
  have method : Yields (fun fault => Obstructs document (.number fault))
      (fun method => method.isSome → (namedMethod? entry.1).isSome) (methodOf entry.1) :=
    (methodOf_yields entry.1).allow fun _ fails => fails.1 ▸ .key here there fails.2
  refine (ofName_yields method).bind fun named found => ?_
  split
  · rename_i t fields entries
    obtain ⟨m, names⟩ := Option.isSome_iff_exists.mp (found rfl)
    let d : Declaration := ⟨item.1, entry.1, m, names, fields⟩
    have declared : d ∈ Declaration.all document :=
      List.mem_flatMap.mpr ⟨item, here, List.mem_filterMap.mpr
        ⟨entry, there, Declaration.of?_eq_some names entries⟩⟩
    have told : d.path ∈ d.told document := List.mem_append_left _ List.mem_cons_self
    have path := (Declaration.name_yields told).allow
      (fun _ lacks => Obstructs.record declared lacks)
    refine (ofName_yields path).bind fun _ _ => ?_
    exact (operation_yields mapping declared _ t).map fun _ _ => trivial
  · exact .ok trivial

theorem normalize_yields :
    FailsOnly (fun e => ∃ fault, Obstructs document fault ∧ e = .mishap (.ofText fault))
      (normalize document) := by
  have each (item : Scalar × Value) (here : item ∈ entriesOf (fieldOf? document "paths")) :
      FailsOnly (IsMissing document) (pathOperations (defaultRequirements top) item) :=
    (Yields.mapM fun entry there => entryOperation_yields mapping here there).bind fun _ _ =>
      .ok trivial
  have paths : ((field? top "paths").bind Value.entries?).getD []
      = entriesOf (fieldOf? document "paths") := by
    simp [entriesOf, fieldOf?, mapping]
  have listed : FailsOnly (IsMissing document) (operations document) := by
    simp only [operations, mapping, operationsInOrder, paths]
    have found : FailsOnly (IsMissing document) (do
        let found ← (entriesOf (fieldOf? document "paths")).mapM
          (pathOperations (defaultRequirements top))
        return found.flatten) :=
      (Yields.mapM each).bind fun _ _ => .ok trivial
    exact found.map fun _ _ => trivial
  refine listed.mapError fun o missing => ?_
  obtain ⟨fault, obstructs, rfl⟩ := missing
  exact ⟨fault, obstructs, rfl⟩

end
end

section
variable {p : Scalar → Prop}

theorem field?_all {entries : List (Scalar × Value)} {v : Value} {name : Text}
    (all : ∀ e ∈ entries, p e.1 ∧ ∀ s ∈ e.2.scalars, p s) (found : field? entries name = some v) :
    ∀ s ∈ v.scalars, p s := by
  obtain ⟨e, there, rfl⟩ := Option.map_eq_some_iff.mp found
  exact (all e (List.mem_of_find?_eq_some there)).2

theorem fieldOf?_all {v w : Value} {name : Text} (all : ∀ s ∈ v.scalars, p s)
    (found : fieldOf? v name = some w) : ∀ s ∈ w.scalars, p s := by
  obtain ⟨entries, mapping, there⟩ := Option.bind_eq_some_iff.mp found
  exact field?_all (Value.entries?_all all mapping) there

theorem entriesOf_all {o : Option Value} (all : ∀ v, o = some v → ∀ s ∈ v.scalars, p s) :
    ∀ e ∈ entriesOf o, p e.1 ∧ ∀ s ∈ e.2.scalars, p s := by
  unfold entriesOf
  cases mapping : o.bind Value.entries? with
  | none => simp
  | some entries =>
    obtain ⟨v, here, there⟩ := Option.bind_eq_some_iff.mp mapping
    exact Value.entries?_all (all v here) there

theorem itemsOf_all {o : Option Value} (all : ∀ v, o = some v → ∀ s ∈ v.scalars, p s) :
    ∀ x ∈ itemsOf o, ∀ s ∈ x.scalars, p s := by
  unfold itemsOf
  cases listed : o.bind Value.items? with
  | none => simp
  | some items =>
    obtain ⟨v, here, there⟩ := Option.bind_eq_some_iff.mp listed
    exact Value.items?_all (all v here) there

variable (all : ∀ s ∈ document.scalars, p s)
include all

theorem paths_all : ∀ item ∈ entriesOf (fieldOf? document "paths"),
    p item.1 ∧ ∀ entry ∈ entriesOf (some item.2), p entry.1 ∧ ∀ s ∈ entry.2.scalars, p s := by
  intro item here
  obtain ⟨path, inside⟩ := entriesOf_all (fun v found => fieldOf?_all all found) item here
  exact ⟨path, entriesOf_all fun v same => Option.some.inj same ▸ inside⟩

theorem Declaration.fields_all {d : Declaration} (declared : d ∈ Declaration.all document) :
    p d.path ∧ ∀ e ∈ d.fields, p e.1 ∧ ∀ s ∈ e.2.scalars, p s := by
  obtain ⟨item, here, found⟩ := List.mem_flatMap.mp declared
  obtain ⟨entry, there, made⟩ := List.mem_filterMap.mp found
  obtain ⟨path, entries⟩ := paths_all all item here
  obtain ⟨same, -, mapping⟩ := Declaration.of?_fields made
  exact ⟨same ▸ path, Value.entries?_all (entries entry there).2 mapping⟩

theorem Declaration.told_all {d : Declaration} (declared : d ∈ Declaration.all document) :
    ∀ s ∈ d.told document, p s := by
  obtain ⟨path, fields⟩ := Declaration.fields_all all declared
  have requirements : ∀ r ∈ d.requirements document, ∀ s ∈ r.scalars, p s := by
    unfold Declaration.requirements
    split
    · rename_i own given
      exact itemsOf_all fun v same => Option.some.inj same ▸ field?_all fields given
    · exact itemsOf_all fun v found => fieldOf?_all all found
  have schemes : ∀ s ∈ d.schemes document, p s := by
    intro s named
    obtain ⟨r, here, key⟩ := List.mem_flatMap.mp named
    obtain ⟨e, there, rfl⟩ := List.mem_map.mp key
    exact (entriesOf_all (fun v same => Option.some.inj same ▸ requirements r here) e there).1
  have reason : ∀ s ∈ (d.reason?.map Value.shown).getD [], p s := by
    cases kept : d.reason? with
    | none => simp
    | some v =>
      have given : field? d.fields "x-reason" = some v := by
        unfold Declaration.reason? at kept
        split at kept
        · exact (Option.filter_eq_some_iff.mp kept).1
        · cases kept
      exact Value.shown_all (field?_all fields given)
  exact List.forall_mem_append.mpr ⟨List.forall_mem_cons.mpr ⟨path, schemes⟩, reason⟩

end

/-- Where every scalar has a text, the operations can be listed just when there is room for all
reasons. -/
theorem listable_iff_room [Host] (writable : document.IsWritable) :
    Listable document ↔ ∀ d ∈ Declaration.all document, d.HasRoom where
  mp := Listable.room
  mpr room := {
    keys := fun item here entry there => ((paths_all writable item here).2 entry there).1
    told := fun _ declared => Declaration.told_all writable declared
    room }

end ExposureLint.Spec
