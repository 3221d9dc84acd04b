import Mathlib
import ExposureLint.Document.Value

/-!
Entries of mappings. Putting an entry among others keeps what holds of all keys and of all values,
and changes nothing under other keys.
-/
namespace ExposureLint

theorem CodePoint.ofChar_injective : Function.Injective CodePoint.ofChar :=
  fun _ _ same => Char.toNat_inj.mp (congrArg CodePoint.val same)

theorem Text.ofString_inj {s t : String} : Text.ofString s = Text.ofString t ↔ s = t := by
  have points := List.map_injective_iff.mpr CodePoint.ofChar_injective
  rw [Text.ofString, Text.ofString, points.eq_iff, String.toList_inj]

namespace Value

variable {K : Scalar → Prop} {V : Value → Prop} {key : Scalar} {value : Value}
  {entries : List (Scalar × Value)}

theorem forall_put (here : K key) (there : V value) (all : ∀ e ∈ entries, K e.1 ∧ V e.2) :
    ∀ e ∈ put key value entries, K e.1 ∧ V e.2 := by
  induction entries with
  | nil => exact List.forall_mem_singleton.mpr ⟨here, there⟩
  | cons e rest ih =>
    obtain ⟨first, others⟩ := List.forall_mem_cons.mp all
    simp only [put]
    split
    · exact List.forall_mem_cons.mpr ⟨⟨first.1, there⟩, others⟩
    · exact List.forall_mem_cons.mpr ⟨first, ih others⟩

theorem forall_ofEntries (all : ∀ e ∈ entries, K e.1 ∧ V e.2) :
    ∀ e ∈ ofEntries entries, K e.1 ∧ V e.2 := by
  have fold (done : List (Scalar × Value)) (good : ∀ e ∈ done, K e.1 ∧ V e.2) :
      ∀ e ∈ entries.foldl (fun done e => put e.1 e.2 done) done, K e.1 ∧ V e.2 := by
    induction entries generalizing done with
    | nil => exact good
    | cons e rest ih =>
      obtain ⟨here, there⟩ := List.forall_mem_cons.mp all
      exact ih there _ (forall_put here.1 here.2 good)
  exact fold [] (List.forall_mem_nil _)

/-- A text is the same key as itself alone. -/
theorem sameKey_text_iff {k : Scalar} {name : Text} :
    k.sameKey (.text name) = true ↔ k = .text name := by
  cases k <;> simp [Scalar.sameKey, Scalar.toInt?]

theorem find?_put_self {name : Text} :
    find? (.text name) (put (.text name) value entries) = some value := by
  induction entries with
  | nil => simp [find?, put, sameKey_text_iff]
  | cons e rest ih =>
    rw [put]
    split
    · rename_i same
      simp [find?, same]
    · rename_i differ
      simpa [find?, List.find?_cons, differ] using ih

theorem find?_put_of_ne {name other : Text} (differ : name ≠ other) :
    find? (.text name) (put (.text other) value entries) = find? (.text name) entries := by
  have apart {k : Scalar} (same : k.sameKey (.text other) = true) :
      k.sameKey (.text name) = false := by
    rw [sameKey_text_iff] at same
    simpa [same, Scalar.sameKey] using differ.symm
  induction entries with
  | nil => simp [find?, put, apart (sameKey_text_iff.mpr rfl)]
  | cons e rest ih =>
    rw [put]
    split
    · rename_i same
      simp [find?, apart same]
    · simp only [find?, List.find?_cons] at ih ⊢
      split
      · rfl
      · exact ih

theorem find?_cons_text (k : Scalar) (rest : List (Scalar × Value)) (name : Text) :
    find? (.text name) ((k, value) :: rest)
      = if k = .text name then some value else find? (.text name) rest := by
  simp only [find?, List.find?_cons]
  by_cases same : k = .text name
  · simp [same, sameKey_text_iff.mpr]
  · have differ : k.sameKey (.text name) = false :=
      Bool.eq_false_iff.mpr fun h => same (sameKey_text_iff.mp h)
    simp [same, differ]

end Value
end ExposureLint
