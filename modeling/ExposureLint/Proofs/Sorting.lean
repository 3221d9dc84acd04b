import Mathlib
import ExposureLint.Text.Sorted

/-!
The order of texts is the lexicographic order of their code points. Sorting by two texts gives the
same elements in ascending order of them, and elements with equal texts keep the order they had.
-/
namespace ExposureLint

theorem CodePoint.eq_of_val_eq {c d : CodePoint} (same : c.val = d.val) : c = d := by
  cases c
  cases d
  cases same
  rfl

namespace Text

def points (t : Text) : List Nat := t.map (·.val)

theorem points_injective : Function.Injective points :=
  List.map_injective_iff.mpr fun _ _ => CodePoint.eq_of_val_eq

theorem le_iff (s t : Text) : Text.le s t = true ↔ s.points ≤ t.points := by
  rw [← not_lt]
  induction s generalizing t with
  | nil => simp [Text.le, points]
  | cons a s ih =>
    cases t with
    | nil => simp [Text.le, points]
    | cons b t =>
      have step := ih t
      simp only [points] at step
      simp only [Text.le, points, List.map_cons, List.cons_lt_cons_iff]
      rcases Nat.lt_trichotomy a.val b.val with lt | eq | gt
      · have notGt : ¬ b.val < a.val := by omega
        have notEq : ¬ b.val = a.val := by omega
        simp [lt, notGt, notEq]
      · simp [eq, step]
      · have notLt : ¬ a.val < b.val := by omega
        simp [gt, notLt]

/-- A pair of texts as a point of the lexicographic order, the first text before the second. -/
def pairPoints (k : Text × Text) : List Nat ×ₗ List Nat := toLex (k.1.points, k.2.points)

theorem pairPoints_injective : Function.Injective pairPoints := by
  intro k l same
  obtain ⟨first, second⟩ := Prod.mk.inj (toLex_inj.mp same)
  exact Prod.ext (points_injective first) (points_injective second)

theorem pairLe_iff (a b : Text × Text) : pairLe a b = true ↔ pairPoints a ≤ pairPoints b := by
  simp only [pairPoints, Prod.Lex.toLex_le_toLex, pairLe]
  by_cases same : a.1 = b.1
  · simp [same, le_iff]
  · have apart : a.1.points ≠ b.1.points := fun h => same (points_injective h)
    simp [same, apart, le_iff, le_iff_lt_or_eq]

end Text

section
variable {α : Type} (key : α → Text × Text)

def Ascending (xs : List α) : Prop :=
  xs.Pairwise fun x y => Text.pairPoints (key x) ≤ Text.pairPoints (key y)

abbrev upTo : α → α → Prop :=
  Order.Preimage (fun x => Text.pairPoints (key x)) (· ≤ ·)

theorem insertBy_eq (x : α) (xs : List α) : insertBy key x xs = xs.orderedInsert (upTo key) x := by
  induction xs with
  | nil => rfl
  | cons y rest ih =>
    simp only [insertBy, List.orderedInsert_cons, Text.pairLe_iff, Order.Preimage, ih]

theorem sortBy_eq (xs : List α) : sortBy key xs = xs.insertionSort (upTo key) := by
  induction xs with
  | nil => rfl
  | cons x rest ih =>
    rw [List.insertionSort_cons, ← ih]
    exact insertBy_eq key x (sortBy key rest)

theorem sortBy_perm (xs : List α) : (sortBy key xs).Perm xs := by
  rw [sortBy_eq]
  exact List.perm_insertionSort (upTo key) xs

theorem sortBy_ascending (xs : List α) : Ascending key (sortBy key xs) := by
  rw [sortBy_eq]
  exact List.pairwise_insertionSort (upTo key) xs

theorem sortBy_of_ascending {xs : List α} (sorted : Ascending key xs) : sortBy key xs = xs := by
  rw [sortBy_eq]
  exact List.Pairwise.insertionSort_eq sorted

/-- Elements with one key ascend in any order, so they keep the one that they have. -/
theorem sortBy_filter (xs : List α) (k : Text × Text) :
    (sortBy key xs).filter (fun y => key y == k) = xs.filter (fun y => key y == k) := by
  have level : (xs.filter fun y => key y == k).Pairwise (upTo key) := by
    refine List.pairwise_of_forall_mem_list fun x here y there => ?_
    have first : key x = k := eq_of_beq (List.mem_filter.mp here).2
    have second : key y = k := eq_of_beq (List.mem_filter.mp there).2
    exact le_of_eq (congrArg Text.pairPoints (first.trans second.symm))
  have within : List.Sublist (xs.filter fun y => key y == k) (sortBy key xs) := by
    rw [sortBy_eq]
    exact List.sublist_insertionSort level List.filter_sublist
  have among := within.filter fun y => key y == k
  rw [List.filter_filter, List.filter_congr fun y _ => Bool.and_self (key y == k)] at among
  exact (among.eq_of_length ((sortBy_perm key xs).filter _).length_eq.symm).symm

section
variable {key} {xs ys : List α}

theorem key_eq_of_le {x y : α} (le : Text.pairPoints (key x) ≤ Text.pairPoints (key y))
    (ge : Text.pairPoints (key y) ≤ Text.pairPoints (key x)) : key x = key y :=
  Text.pairPoints_injective (le_antisymm le ge)

/-- Elements with keys of their own have no second order in which they ascend. -/
theorem eq_of_perm_of_ascending (apart : (xs.map key).Nodup) (perm : xs.Perm ys)
    (sorted : Ascending key xs) (sorted' : Ascending key ys) : xs = ys := by
  refine perm.eq_of_pairwise ?_ sorted sorted'
  intro a b here there below above
  exact List.inj_on_of_nodup_map apart here (perm.mem_iff.mpr there) (key_eq_of_le below above)

theorem mem_of_filter
    (same : ∀ k, xs.filter (fun x => key x == k) = ys.filter (fun x => key x == k))
    {x : α} (here : x ∈ xs) : x ∈ ys := by
  have kept : x ∈ xs.filter (fun y => key y == key x) :=
    List.mem_filter.mpr ⟨here, beq_self_eq_true (key x)⟩
  rw [same] at kept
  exact List.mem_of_mem_filter kept

/-- What ascends is known by the elements under each key and their order. -/
theorem eq_of_ascending_of_filter (sorted : Ascending key xs) (sorted' : Ascending key ys)
    (same : ∀ k, xs.filter (fun x => key x == k) = ys.filter (fun x => key x == k)) : xs = ys := by
  induction xs generalizing ys with
  | nil =>
    have empty (y : α) : y ∉ ys := fun here =>
      List.not_mem_nil (mem_of_filter (fun k => (same k).symm) here)
    exact (List.eq_nil_iff_forall_not_mem.mpr empty).symm
  | cons x xs ih =>
    have first : x ∈ ys := mem_of_filter same List.mem_cons_self
    cases ys with
    | nil => exact absurd first List.not_mem_nil
    | cons y ys =>
      obtain ⟨above, others⟩ := List.pairwise_cons.mp sorted
      obtain ⟨above', others'⟩ := List.pairwise_cons.mp sorted'
      -- The first of each list is somewhere in the other one, so neither key is above the other.
      have le : Text.pairPoints (key y) ≤ Text.pairPoints (key x) := by
        rcases List.mem_cons.mp first with rfl | later
        · exact le_refl _
        · exact above' x later
      have ge : Text.pairPoints (key x) ≤ Text.pairPoints (key y) := by
        have there : y ∈ x :: xs := mem_of_filter (fun k => (same k).symm) List.mem_cons_self
        rcases List.mem_cons.mp there with rfl | later
        · exact le_refl _
        · exact above y later
      have keys : key y = key x := key_eq_of_le le ge
      have heads := same (key x)
      rw [List.filter_cons_of_pos (by simp), List.filter_cons_of_pos (by simp [keys])] at heads
      obtain ⟨rfl, -⟩ := List.cons.inj heads
      refine congrArg (x :: ·) (ih others others' fun k => ?_)
      have rest := same k
      by_cases under : key x = k
      · rw [List.filter_cons_of_pos (by simp [under]), List.filter_cons_of_pos (by simp [under])]
          at rest
        exact (List.cons.inj rest).2
      · rwa [List.filter_cons_of_neg (by simp [under]), List.filter_cons_of_neg (by simp [under])]
          at rest

end

end

section
variable {α β : Type} {key : α → Text × Text} {key' : β → Text × Text} {R : α → β → Prop}
  (keys : ∀ x y, R x y → key x = key' y)
include keys

theorem forall₂_insertBy {x : α} {y : β} {xs : List α} {ys : List β} (here : R x y)
    (rows : List.Forall₂ R xs ys) : List.Forall₂ R (insertBy key x xs) (insertBy key' y ys) := by
  induction rows with
  | nil => exact .cons here .nil
  | @cons a b _ _ first others ih =>
    simp only [insertBy, keys x y here, keys a b first]
    split
    · exact .cons here (.cons first others)
    · exact .cons first ih

theorem forall₂_sortBy {xs : List α} {ys : List β} (rows : List.Forall₂ R xs ys) :
    List.Forall₂ R (sortBy key xs) (sortBy key' ys) := by
  induction rows with
  | nil => exact .nil
  | cons here _ ih => exact forall₂_insertBy keys here ih

end
end ExposureLint
