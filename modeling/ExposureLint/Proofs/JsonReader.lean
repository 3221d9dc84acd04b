import Mathlib
import ExposureLint.Proofs.DistinctKeys
import ExposureLint.Proofs.JsonNumber

/-!
Reading a JSON text. It fails where the text is malformed or goes too deep, or where an integer has
too many digits, and in no other way; every scalar of a value that is read has a text, and its
mappings have distinct keys.
-/
namespace ExposureLint.Json

theorem malformed_yields {α : Type} {Q : α → Prop} (reason : Reason) (pos : Nat) :
    Yields IsMalformedOrTooLong Q (.error (.malformed reason pos)) :=
  .error (malformed_allowed reason pos)

theorem lowHalf?_yields (pos : Nat) (t : Text) :
    FailsOnly IsMalformedOrTooLong (lowHalf? pos t) := by
  unfold lowHalf?
  split
  · split
    · split
      · exact .ok trivial
      · exact malformed_yields _ _
    · exact .ok trivial
  · exact .ok trivial

theorem escape_yields (start pos : Nat) (t : Text) :
    FailsOnly IsMalformedOrTooLong (escape start pos t) := by
  cases t with
  | nil => exact malformed_yields _ _
  | cons c rest =>
    simp only [escape]
    split
    · split
      · exact malformed_yields _ _
      · split
        · apply Yields.bind (lowHalf?_yields _ _)
          intro low _
          cases low <;> exact .ok trivial
        · exact .ok trivial
    · split
      · exact .ok trivial
      · exact malformed_yields _ _

theorem stringFrom_yields (start fuel : Nat) (a : At) :
    FailsOnly IsMalformedOrTooLong (stringFrom start fuel a) := by
  induction fuel generalizing a with
  | zero => exact malformed_yields _ _
  | succ fuel ih =>
    obtain ⟨pos, rest⟩ := a
    cases rest with
    | nil => exact malformed_yields _ _
    | cons c rest =>
      simp only [stringFrom]
      split
      · exact .ok trivial
      · split
        · apply Yields.bind (escape_yields start pos rest)
          intro escaped _
          exact (ih _).bind fun _ _ => .ok trivial
        · split
          · exact malformed_yields _ _
          · exact (ih _).bind fun _ _ => .ok trivial

theorem string_yields (a : At) : FailsOnly IsMalformedOrTooLong (string a) :=
  stringFrom_yields _ _ a

/-- The values of JSON texts: scalars that have texts, lists, and mappings with distinct texts as
keys. -/
inductive IsData : Value → Prop
  | scalar {s : Scalar} (writable : s.IsWritable) : IsData (.scalar s)
  | list {items : List Value} (inside : ∀ x ∈ items, IsData x) : IsData (.list items)
  | map {entries : List (Scalar × Value)} (distinct : Value.DistinctKeys entries)
    (keys : ∀ e ∈ entries, ∃ t, e.1 = .text t) (inside : ∀ e ∈ entries, IsData e.2) :
    IsData (.map entries)

namespace IsData
variable {v : Value}

theorem isWritable (data : IsData v) : v.IsWritable := by
  induction data with
  | scalar writable => exact List.forall_mem_singleton.mpr writable
  | list inside ih =>
    intro s there
    rw [Value.scalars, Value.scalarsOfItems_eq] at there
    obtain ⟨x, among, part⟩ := List.mem_flatMap.mp there
    exact ih x among s part
  | map distinct keys inside ih =>
    intro s there
    rw [Value.scalars, Value.scalarsOfEntries_eq] at there
    obtain ⟨e, among, part⟩ := List.mem_flatMap.mp there
    obtain ⟨t, key⟩ := keys e among
    cases List.mem_cons.mp part with
    | inl same => exact same ▸ key ▸ trivial
    | inr part => exact ih e among s part

theorem isKeyed (data : IsData v) : v.isKeyed = true := by
  induction data with
  | scalar writable => rfl
  | list inside ih => exact (Value.itemsKeyed_iff _).mpr ih
  | map distinct keys inside ih => exact (Value.entriesKeyed_iff _).mpr ⟨distinct, ih⟩

end IsData

def MembersData (entries : List (Scalar × Value)) : Prop :=
  ∀ e ∈ entries, (∃ t, e.1 = .text t) ∧ IsData e.2

theorem MembersData.map {entries : List (Scalar × Value)} (all : MembersData entries) :
    IsData (.map (Value.ofEntries entries)) := by
  have kept : ∀ e ∈ Value.ofEntries entries, (∃ t, e.1 = .text t) ∧ IsData e.2 :=
    Value.forall_ofEntries (K := fun k => ∃ t, k = .text t) (V := IsData) all
  exact .map (Value.distinctKeys_ofEntries entries) (fun e there => (kept e there).1)
    fun e there => (kept e there).2

theorem words_writable : ∀ w ∈ words, w.2.IsWritable := by
  simp [words, Scalar.IsWritable]

/-- The readers of values, items and members with the same fuel, in whatever room. -/
structure ReadersYield (fuel : Nat) : Prop where
  value : ∀ room a, Yields IsMalformedOrTooLong (fun r => IsData r.1) (Json.value fuel room a)
  items : ∀ room a,
    Yields IsMalformedOrTooLong (fun r => ∀ x ∈ r.1, IsData x) (Json.items fuel room a)
  members : ∀ room a,
    Yields IsMalformedOrTooLong (fun r => MembersData r.1) (Json.members fuel room a)

namespace ReadersYield
variable {fuel : Nat} (less : ReadersYield fuel) (room : Nat) (a : At)
include less

theorem value_step : Yields IsMalformedOrTooLong (fun r => IsData r.1)
    (Json.value (fuel + 1) room a) := by
  unfold Json.value
  split
  · exact (string_yields _).bind fun _ _ => .ok (.scalar trivial)
  · split
    · split
      · exact .error tooDeep_allowed
      · simp only
        split
        · exact .ok (.list (List.forall_mem_nil _))
        · exact (less.items _ _).bind fun _ all => .ok (.list all)
    · split
      · split
        · exact .error tooDeep_allowed
        · simp only
          split
          · exact .ok (MembersData.map (List.forall_mem_nil _))
          · exact (less.members _ _).bind fun _ all => .ok all.map
      · split
        · rename_i w found
          exact .ok (.scalar (words_writable w (List.mem_of_find?_eq_some found)))
        · refine (number_yields a).weaken fun r ⟨s, same, writable⟩ => ?_
          rw [same]
          exact .scalar writable

theorem items_step : Yields IsMalformedOrTooLong (fun r => ∀ x ∈ r.1, IsData x)
    (Json.items (fuel + 1) room a) := by
  unfold Json.items
  apply Yields.bind (less.value room a)
  intro first good
  simp only
  split
  · exact .ok (List.forall_mem_singleton.mpr good)
  · split
    · exact (less.items _ _).bind fun _ all => .ok (List.forall_mem_cons.mpr ⟨good, all⟩)
    · exact malformed_yields _ _

theorem members_step : Yields IsMalformedOrTooLong (fun r => MembersData r.1)
    (Json.members (fuel + 1) room a) := by
  unfold Json.members
  split
  · apply Yields.bind (string_yields _)
    intro name _
    simp only
    split
    · apply Yields.bind (less.value _ _)
      intro first good
      split
      · exact .ok (List.forall_mem_singleton.mpr ⟨⟨_, rfl⟩, good⟩)
      · split
        · exact (less.members _ _).bind fun _ all =>
            .ok (List.forall_mem_cons.mpr ⟨⟨⟨_, rfl⟩, good⟩, all⟩)
        · exact malformed_yields _ _
    · exact malformed_yields _ _
  · exact malformed_yields _ _

end ReadersYield

theorem readersYield (fuel : Nat) : ReadersYield fuel := by
  induction fuel with
  | zero =>
    exact ⟨fun _ _ => malformed_yields _ _, fun _ _ => malformed_yields _ _,
      fun _ _ => malformed_yields _ _⟩
  | succ fuel less => exact ⟨less.value_step, less.items_step, less.members_step⟩

/-- A text is refused for its form, for its depth or for an integer with too many digits; what is
read otherwise is the value of a JSON text. -/
theorem readWithin_yields (room : Nat) (t : Text) :
    Yields IsMalformedOrTooLong IsData (readWithin room t) := by
  unfold readWithin
  split
  · exact malformed_yields _ _
  · apply Yields.bind ((readersYield _).value room _)
    intro read good
    simp only
    split
    · exact .ok good
    · exact malformed_yields _ _

end ExposureLint.Json
