import Mathlib
import ExposureLint.Proofs.Entries

/-!
Mappings with distinct keys, and lists rearranged. Where no key occurs twice, what a name finds does
not depend on the order of the entries.
-/
namespace ExposureLint

section
variable {α β γ : Type} {R : α → β → Prop} {xs : List α} {ys : List β}

theorem rel_of_forall₂ (related : List.Forall₂ R xs ys) : Multiset.Rel R xs ys := by
  induction related with
  | nil => exact .zero
  | cons here _ ih => exact .cons here ih

/-- Two lists agree up to order when one can be put into an order in which they agree row by row. -/
theorem rel_coe_iff : Multiset.Rel R xs ys ↔ ∃ zs, xs.Perm zs ∧ List.Forall₂ R zs ys := by
  constructor
  · intro related
    induction ys generalizing xs with
    | nil =>
      have empty : xs = [] := by simpa using Multiset.rel_zero_right.mp related
      exact ⟨[], empty ▸ List.Perm.refl _, .nil⟩
    | cons y rest ih =>
      rw [← Multiset.cons_coe, Multiset.rel_cons_right] at related
      obtain ⟨x, others, here, there, split⟩ := related
      obtain ⟨zs, rfl⟩ := Quot.exists_rep others
      obtain ⟨order, perm, row⟩ := ih there
      have moved : xs.Perm (x :: zs) := Multiset.coe_eq_coe.mp split
      exact ⟨x :: order, moved.trans (perm.cons x), .cons here row⟩
  · rintro ⟨zs, perm, row⟩
    rw [Multiset.coe_eq_coe.mpr perm]
    exact rel_of_forall₂ row

theorem rel_flatMap {δ : Type} {S : γ → δ → Prop} {f : α → List γ} {g : β → List δ}
    (related : Multiset.Rel R xs ys) (each : ∀ x ∈ xs, ∀ y, R x y → Multiset.Rel S (f x) (g y)) :
    Multiset.Rel S (xs.flatMap f) (ys.flatMap g) := by
  have rows : Multiset.Rel (fun x y => Multiset.Rel S (f x) (g y)) xs ys :=
    related.mono fun x here y _ => each x here y
  have bound := Multiset.rel_bind (fun _ _ row => row) rows
  rwa [Multiset.coe_bind, Multiset.coe_bind] at bound

theorem forall₂_carry {D : α → γ → Prop} {E : β → γ → Prop} {rows : List γ}
    (carry : ∀ x y row, R x y → D x row → E y row) (related : List.Forall₂ R xs ys)
    (described : List.Forall₂ D xs rows) : List.Forall₂ E ys rows := by
  induction related generalizing rows with
  | nil =>
    cases described
    exact .nil
  | cons here _ ih =>
    cases described with
    | cons first others => exact .cons (carry _ _ _ here first) (ih others)

/-- Rows that belong to elements go along when the elements are rearranged. -/
theorem exists_perm_forall₂ {D : α → γ → Prop} {E : β → γ → Prop} {rows : List γ}
    (related : Multiset.Rel R xs ys) (carry : ∀ x y row, R x y → D x row → E y row)
    (described : List.Forall₂ D xs rows) :
    ∃ moved, rows.Perm moved ∧ List.Forall₂ E ys moved := by
  obtain ⟨zs, perm, row⟩ := rel_coe_iff.mp related
  obtain ⟨moved, along, order⟩ := List.perm_comp_forall₂ perm.symm described
  exact ⟨moved, order.symm, forall₂_carry carry row along⟩

end

namespace Value

/-- No key stands for an entry that comes before it. -/
def DistinctKeys {α : Type} (entries : List (Scalar × α)) : Prop :=
  entries.Pairwise fun a b => a.1.sameKey b.1 = false

theorem distinctKeys_put {key : Scalar} {value : Value} {entries : List (Scalar × Value)}
    (distinct : DistinctKeys entries) : DistinctKeys (put key value entries) := by
  induction entries with
  | nil => exact List.pairwise_singleton _ _
  | cons e rest ih =>
    obtain ⟨apart, others⟩ := List.pairwise_cons.mp distinct
    simp only [put]
    split
    · exact List.pairwise_cons.mpr ⟨apart, others⟩
    · rename_i differ
      have new : e.1.sameKey key = false := Bool.eq_false_iff.mpr differ
      refine List.pairwise_cons.mpr ⟨?_, ih others⟩
      have keys : ∀ x ∈ put key value rest, e.1.sameKey x.1 = false ∧ True :=
        forall_put (K := fun k => e.1.sameKey k = false) (V := fun _ => True) new trivial
          fun x hx => ⟨apart x hx, trivial⟩
      exact fun x hx => (keys x hx).1

theorem distinctKeys_ofEntries (entries : List (Scalar × Value)) :
    DistinctKeys (ofEntries entries) := by
  have fold (done : List (Scalar × Value)) (distinct : DistinctKeys done) :
      DistinctKeys (entries.foldl (fun done e => put e.1 e.2 done) done) := by
    induction entries generalizing done with
    | nil => exact distinct
    | cons e rest ih => exact ih _ (distinctKeys_put distinct)
  exact fold [] List.Pairwise.nil

theorem put_new {key : Scalar} {value : Value} {entries : List (Scalar × Value)}
    (new : ∀ e ∈ entries, e.1.sameKey key = false) :
    put key value entries = entries ++ [(key, value)] := by
  induction entries with
  | nil => rfl
  | cons e rest ih =>
    obtain ⟨here, there⟩ := List.forall_mem_cons.mp new
    simp [put, here, ih there]

theorem ofEntries_eq {entries : List (Scalar × Value)} (distinct : DistinctKeys entries) :
    ofEntries entries = entries := by
  have fold (done : List (Scalar × Value)) (apart : DistinctKeys (done ++ entries)) :
      entries.foldl (fun done e => put e.1 e.2 done) done = done ++ entries := by
    clear distinct
    induction entries generalizing done with
    | nil => simp
    | cons e rest ih =>
      have new : ∀ x ∈ done, x.1.sameKey e.1 = false := fun x hx =>
        (List.pairwise_append.mp apart).2.2 x hx e List.mem_cons_self
      rw [List.foldl_cons, put_new new, ih _ (by simpa using apart), List.append_assoc]
      rfl
  exact fold [] distinct

section
variable {es fs : List (Scalar × Value)} {name : Text}

theorem find?_eq_head? :
    find? (.text name) es = (es.filter fun e => e.1.sameKey (.text name)).head?.map (·.2) := by
  rw [find?, List.head?_filter]

theorem filter_name_length (distinct : DistinctKeys es) :
    (es.filter fun e => e.1.sameKey (.text name)).length ≤ 1 := by
  have apart := List.Pairwise.filter (fun e => e.1.sameKey (.text name)) distinct
  have named : ∀ e ∈ es.filter fun e => e.1.sameKey (.text name), e.1 = .text name := by
    intro e he
    exact sameKey_text_iff.mp (List.mem_filter.mp he).2
  generalize es.filter (fun e => e.1.sameKey (.text name)) = found at apart named
  match found with
  | [] => exact Nat.zero_le 1
  | [_] => exact Nat.le_refl 1
  | a :: b :: rest =>
    have differ := (List.pairwise_cons.mp apart).1 b List.mem_cons_self
    have first := named a List.mem_cons_self
    have second := named b (List.mem_cons_of_mem a List.mem_cons_self)
    simp [first, second, Scalar.sameKey] at differ

theorem find?_perm (distinct : DistinctKeys es) (perm : es.Perm fs) :
    find? (.text name) es = find? (.text name) fs := by
  rw [find?_eq_head?, find?_eq_head?]
  have short : (es.filter fun e => e.1.sameKey (.text name)).length ≤ 1 :=
    filter_name_length distinct
  have same := perm.filter fun e => e.1.sameKey (.text name)
  generalize es.filter (fun e => e.1.sameKey (.text name)) = left at short same
  match left with
  | [] => rw [same.nil_eq]
  | [e] => rw [List.singleton_perm.mp same]
  | _ :: _ :: _ => simp at short

def UnderOneKey (R : Value → Value → Prop) (a b : Scalar × Value) : Prop := a.1 = b.1 ∧ R a.2 b.2

theorem find?_rel {R : Value → Value → Prop} (distinct : DistinctKeys es)
    (related : Multiset.Rel (UnderOneKey R) es fs) :
    Option.Rel R (find? (.text name) es) (find? (.text name) fs) := by
  obtain ⟨zs, perm, row⟩ := rel_coe_iff.mp related
  rw [find?_perm distinct perm]
  clear perm related distinct
  induction row with
  | nil => exact .none
  | @cons a b _ _ here _ ih =>
    have key : b.1.sameKey (.text name) = a.1.sameKey (.text name) := by rw [here.1]
    simp only [find?, List.find?_cons, key] at ih ⊢
    split
    · exact .some here.2
    · exact ih

end

mutual

def isKeyed : Value → Bool
  | .scalar _ | .set _ | .ref _ => true
  | .list items => itemsKeyed items
  | .pair first second => isKeyed first && isKeyed second
  | .map entries => entriesKeyed entries
  | .labelled _ body => isKeyed body

def itemsKeyed : List Value → Bool
  | [] => true
  | x :: rest => isKeyed x && itemsKeyed rest

def entriesKeyed : List (Scalar × Value) → Bool
  | [] => true
  | (k, x) :: rest => rest.all (fun e => !k.sameKey e.1) && (isKeyed x && entriesKeyed rest)

end

theorem itemsKeyed_iff (items : List Value) :
    itemsKeyed items = true ↔ ∀ x ∈ items, x.isKeyed = true := by
  induction items with
  | nil => simp [itemsKeyed]
  | cons x rest ih => simp [itemsKeyed, ih]

theorem entriesKeyed_iff (entries : List (Scalar × Value)) :
    entriesKeyed entries = true ↔ DistinctKeys entries ∧ ∀ e ∈ entries, e.2.isKeyed = true := by
  induction entries with
  | nil => simp [entriesKeyed, DistinctKeys]
  | cons e rest ih =>
    simp only [entriesKeyed, Bool.and_eq_true, ih, DistinctKeys, List.pairwise_cons,
      List.forall_mem_cons, List.all_eq_true, Bool.not_eq_true']
    constructor
    · rintro ⟨apart, here, distinct, there⟩
      exact ⟨⟨apart, distinct⟩, here, there⟩
    · rintro ⟨⟨apart, distinct⟩, here, there⟩
      exact ⟨apart, here, distinct, there⟩

theorem map_fst_substEntries (n : Nat) (w : Value) (entries : List (Scalar × Value)) :
    (substEntries n w entries).map (·.1) = entries.map (·.1) := by
  induction entries with
  | nil => rfl
  | cons e rest ih => simp [substEntries, ih]

mutual

theorem isKeyed_subst (n : Nat) (w v : Value) (inner : w.isKeyed = true)
    (keyed : v.isKeyed = true) : (subst n w v).isKeyed = true := by
  cases v with
  | scalar s => exact keyed
  | list items => exact itemsKeyed_subst n w items inner keyed
  | pair first second =>
    obtain ⟨left, right⟩ := Bool.and_eq_true_iff.mp keyed
    exact Bool.and_eq_true_iff.mpr
      ⟨isKeyed_subst n w first inner left, isKeyed_subst n w second inner right⟩
  | map entries => exact entriesKeyed_subst n w entries inner keyed
  | set members => exact keyed
  | labelled k body =>
    rw [subst]
    split
    · exact keyed
    · exact isKeyed_subst n w body inner keyed
  | ref k =>
    rw [subst]
    split
    · exact inner
    · exact keyed

theorem itemsKeyed_subst (n : Nat) (w : Value) (items : List Value) (inner : w.isKeyed = true)
    (keyed : itemsKeyed items = true) : itemsKeyed (substItems n w items) = true := by
  cases items with
  | nil => exact keyed
  | cons x rest =>
    obtain ⟨first, others⟩ := Bool.and_eq_true_iff.mp keyed
    exact Bool.and_eq_true_iff.mpr
      ⟨isKeyed_subst n w x inner first, itemsKeyed_subst n w rest inner others⟩

theorem entriesKeyed_subst (n : Nat) (w : Value) (entries : List (Scalar × Value))
    (inner : w.isKeyed = true) (keyed : entriesKeyed entries = true) :
    entriesKeyed (substEntries n w entries) = true := by
  match entries with
  | [] => exact keyed
  | (k, x) :: rest =>
    obtain ⟨apart, inside⟩ := Bool.and_eq_true_iff.mp keyed
    obtain ⟨first, others⟩ := Bool.and_eq_true_iff.mp inside
    -- Substitution leaves the keys as they are.
    have keys (es : List (Scalar × Value)) :
        es.all (fun e => !k.sameKey e.1) = (es.map (·.1)).all fun key => !k.sameKey key := by
      rw [List.all_map]
      rfl
    rw [keys, ← map_fst_substEntries n w rest, ← keys] at apart
    exact Bool.and_eq_true_iff.mpr ⟨apart, Bool.and_eq_true_iff.mpr
      ⟨isKeyed_subst n w x inner first, entriesKeyed_subst n w rest inner others⟩⟩

end

section
variable {v : Value} (keyed : v.isKeyed = true)
include keyed

theorem isKeyed_unfold : v.unfold.isKeyed = true := by
  cases v with
  | labelled n body => exact isKeyed_subst n (.labelled n body) body keyed keyed
  | _ => exact keyed

theorem entries?_keyed {entries : List (Scalar × Value)} (mapping : v.entries? = some entries) :
    DistinctKeys entries ∧ ∀ e ∈ entries, e.2.isKeyed = true := by
  have inside := isKeyed_unfold keyed
  unfold entries? at mapping
  split at mapping
  · rename_i same
    cases mapping
    rw [same] at inside
    exact (entriesKeyed_iff entries).mp inside
  · cases mapping

end
end Value
end ExposureLint
