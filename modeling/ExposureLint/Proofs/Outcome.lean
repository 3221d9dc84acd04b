import Mathlib

/-!
Steps that may fail. A row of steps succeeds exactly when each of them does, and it can fail only
with what one of them fails with.
-/
namespace ExposureLint

section
variable {ε δ α β : Type}

theorem bind_eq_ok_iff {x : Except ε α} {f : α → Except ε β} {b : β} :
    (x >>= f) = .ok b ↔ ∃ a, x = .ok a ∧ f a = .ok b := by
  cases x with
  | error e => simp [bind, Except.bind]
  | ok a => simp [bind, Except.bind]

theorem map_eq_ok_iff {x : Except ε α} {f : α → β} {b : β} :
    (f <$> x) = .ok b ↔ ∃ a, x = .ok a ∧ f a = b := by
  cases x with
  | error e => simp [Functor.map, Except.map]
  | ok a => simp [Functor.map, Except.map]

theorem mapError_eq_ok_iff {x : Except ε α} {f : ε → δ} {a : α} :
    x.mapError f = .ok a ↔ x = .ok a := by
  cases x <;> simp [Except.mapError]

theorem mapError_eq_error_iff {x : Except ε α} {f : ε → δ} {d : δ} :
    x.mapError f = .error d ↔ ∃ e, x = .error e ∧ f e = d := by
  cases x <;> simp [Except.mapError]

theorem toOption_eq_some_iff {x : Except ε α} {a : α} : x.toOption = some a ↔ x = .ok a := by
  cases x <;> simp [Except.toOption]

theorem mapM_eq_ok_iff {f : α → Except ε β} {xs : List α} {ys : List β} :
    xs.mapM f = .ok ys ↔ List.Forall₂ (fun x y => f x = .ok y) xs ys := by
  induction xs generalizing ys with
  | nil => cases ys <;> simp [pure, Except.pure]
  | cons x rest ih =>
    simp only [List.mapM_cons, bind_eq_ok_iff, ih, pure, Except.pure, Except.ok.injEq,
      List.forall₂_cons_left_iff]
    constructor
    · rintro ⟨y, hy, more, all, rfl⟩
      exact ⟨y, more, hy, all, rfl⟩
    · rintro ⟨y, more, hy, all, rfl⟩
      exact ⟨y, hy, more, all, rfl⟩

theorem exists_forall₂_iff {R : α → β → Prop} {xs : List α} :
    (∃ ys, List.Forall₂ R xs ys) ↔ ∀ x ∈ xs, ∃ y, R x y := by
  induction xs with
  | nil => simp
  | cons x rest ih =>
    simp only [List.forall₂_cons_left_iff, List.forall_mem_cons, ← ih]
    constructor
    · rintro ⟨_, y, ys, here, there, rfl⟩
      exact ⟨⟨y, here⟩, ys, there⟩
    · rintro ⟨⟨y, here⟩, ys, there⟩
      exact ⟨y :: ys, y, ys, here, there, rfl⟩

theorem exists_mapM_eq_ok_iff {f : α → Except ε β} {xs : List α} :
    (∃ ys, xs.mapM f = .ok ys) ↔ ∀ x ∈ xs, ∃ y, f x = .ok y := by
  simp only [mapM_eq_ok_iff, exists_forall₂_iff]

/-- Steps that each lead to some elements. Where one step succeeds just when `K` holds, with
elements that `D` relates to those of `b`, so does the whole row with all of them in order. -/
theorem mapM_flatMap_eq_ok_iff {γ κ : Type} {f : α → Except ε β} {collect : β → List γ}
    {K : α → Prop} {D : κ → γ → Prop} {b : α → List κ}
    (each : ∀ x zs, (∃ y, f x = .ok y ∧ collect y = zs) ↔ K x ∧ List.Forall₂ D (b x) zs)
    (xs : List α) (zs : List γ) :
    (∃ ys, xs.mapM f = .ok ys ∧ ys.flatMap collect = zs)
      ↔ (∀ x ∈ xs, K x) ∧ List.Forall₂ D (xs.flatMap b) zs := by
  induction xs generalizing zs with
  | nil =>
    simp only [mapM_eq_ok_iff, List.forall₂_nil_left_iff, List.flatMap_nil, exists_eq_left]
    simp [eq_comm]
  | cons x rest ih =>
    simp only [mapM_eq_ok_iff] at ih ⊢
    simp only [List.forall₂_cons_left_iff, List.forall_mem_cons, List.flatMap_cons]
    constructor
    · rintro ⟨_, ⟨y, ys, hy, all, rfl⟩, same⟩
      rw [List.flatMap_cons] at same
      subst same
      have head := (each x (collect y)).mp ⟨y, hy, rfl⟩
      have tail := (ih (ys.flatMap collect)).mp ⟨ys, all, rfl⟩
      exact ⟨⟨head.1, tail.1⟩, List.rel_append head.2 tail.2⟩
    · rintro ⟨⟨here, there⟩, related⟩
      have first := List.forall₂_take_append zs (b x) (rest.flatMap b) related.flip
      have others := List.forall₂_drop_append zs (b x) (rest.flatMap b) related.flip
      obtain ⟨y, hy, made⟩ := (each x _).mpr ⟨here, first.flip⟩
      obtain ⟨ys, all, collected⟩ := (ih _).mpr ⟨there, others.flip⟩
      exact ⟨y :: ys, ⟨y, ys, hy, all, rfl⟩, by
        rw [List.flatMap_cons, made, collected, List.take_append_drop]⟩

/-- A step fails only with what satisfies `P`, and gives only what satisfies `Q`. -/
inductive Yields (P : ε → Prop) (Q : α → Prop) : Except ε α → Prop
  | ok {a : α} (good : Q a) : Yields P Q (.ok a)
  | error {e : ε} (allowed : P e) : Yields P Q (.error e)

abbrev FailsOnly (P : ε → Prop) (x : Except ε α) : Prop := Yields P (fun _ => True) x

namespace Yields
variable {P : ε → Prop} {Q : α → Prop} {R : β → Prop}

theorem of_ok {x : Except ε α} {a : α} (yields : Yields P Q x) (gave : x = .ok a) : Q a := by
  subst gave
  cases yields with
  | ok good => exact good

theorem of_error {x : Except ε α} {e : ε} (yields : Yields P Q x) (failed : x = .error e) :
    P e := by
  subst failed
  cases yields with
  | error allowed => exact allowed

theorem any (x : Except ε α) : Yields (fun _ => True) (fun _ => True) x := by
  cases x with
  | ok a => exact .ok trivial
  | error e => exact .error trivial

theorem weaken {Q' : α → Prop} {x : Except ε α} (yields : Yields P Q x) (weaker : ∀ a, Q a → Q' a) :
    Yields P Q' x := by
  cases yields with
  | ok good => exact .ok (weaker _ good)
  | error allowed => exact .error allowed

theorem allow {P' : ε → Prop} {x : Except ε α} (yields : Yields P Q x) (weaker : ∀ e, P e → P' e) :
    Yields P' Q x := by
  cases yields with
  | ok good => exact .ok good
  | error allowed => exact .error (weaker _ allowed)

theorem bind {x : Except ε α} {f : α → Except ε β} (first : Yields P Q x)
    (next : ∀ a, Q a → Yields P R (f a)) : Yields P R (x >>= f) := by
  cases first with
  | ok good => exact next _ good
  | error allowed => exact .error allowed

theorem map {x : Except ε α} {f : α → β} (first : Yields P Q x) (carry : ∀ a, Q a → R (f a)) :
    Yields P R (f <$> x) := by
  cases first with
  | ok good => exact .ok (carry _ good)
  | error allowed => exact .error allowed

theorem ite {c : Prop} [Decidable c] {x y : Except ε α} (yes : Yields P Q x) (no : Yields P Q y) :
    Yields P Q (if c then x else y) := by
  split
  · exact yes
  · exact no

theorem mapError {P' : δ → Prop} {x : Except δ α} {f : δ → ε} (first : Yields P' Q x)
    (carry : ∀ d, P' d → P (f d)) : Yields P Q (x.mapError f) := by
  cases first with
  | ok good => exact .ok good
  | error allowed => exact .error (carry _ allowed)

theorem mapM {f : α → Except ε β} {xs : List α} (each : ∀ x ∈ xs, Yields P R (f x)) :
    Yields P (fun ys => ∀ y ∈ ys, R y) (xs.mapM f) := by
  induction xs with
  | nil => exact .ok fun y none => absurd none List.not_mem_nil
  | cons x rest ih =>
    rw [List.mapM_cons]
    refine bind (each x List.mem_cons_self) fun y here => ?_
    refine bind (ih fun z hz => each z (List.mem_cons_of_mem x hz)) fun ys there => ?_
    exact .ok (List.forall_mem_cons.mpr ⟨here, there⟩)

end Yields
end

section
variable {σ ε α β : Type} {I : σ → Prop} {P : ε → Prop}

/-- From a state that satisfies `I` a step fails only with what satisfies `P`, and the state after
it satisfies `I` again. -/
def Keeps (I : σ → Prop) (P : ε → Prop) (x : StateT σ (Except ε) α) : Prop :=
  ∀ s, I s → Yields P (fun r => I r.2) (x.run s)

namespace Keeps

theorem pure (a : α) : Keeps I P (Pure.pure a : StateT σ (Except ε) α) :=
  fun _ kept => .ok kept

theorem bind {x : StateT σ (Except ε) α} {f : α → StateT σ (Except ε) β} (first : Keeps I P x)
    (next : ∀ a, Keeps I P (f a)) : Keeps I P (x >>= f) :=
  fun s kept => (first s kept).bind fun r kept' => next r.1 r.2 kept'

theorem get : Keeps I P (MonadState.get : StateT σ (Except ε) σ) :=
  fun _ kept => .ok kept

theorem get_bind {f : σ → StateT σ (Except ε) β} (next : ∀ s, I s → Keeps I P (f s)) :
    Keeps I P (MonadState.get >>= f) :=
  fun s kept => next s kept s kept

theorem set {s : σ} (good : I s) : Keeps I P (MonadStateOf.set s : StateT σ (Except ε) PUnit) :=
  fun _ _ => .ok good

theorem update {f : σ → σ} (keep : ∀ s, I s → I (f s)) :
    Keeps I P (modify f : StateT σ (Except ε) PUnit) :=
  fun s kept => .ok (keep s kept)

theorem throw {e : ε} (allowed : P e) : Keeps I P (MonadExcept.throw e : StateT σ (Except ε) α) :=
  fun _ _ => .error allowed

theorem lift {Q : α → Prop} {x : Except ε α} (yields : Yields P Q x) :
    Keeps I P (liftM x : StateT σ (Except ε) α) :=
  fun _ kept => yields.bind fun _ _ => .ok kept

theorem ite {c : Prop} [Decidable c] {x y : StateT σ (Except ε) α} (yes : Keeps I P x)
    (no : Keeps I P y) : Keeps I P (if c then x else y) := by
  split
  · exact yes
  · exact no

theorem map {x : StateT σ (Except ε) α} {f : α → β} (first : Keeps I P x) : Keeps I P (f <$> x) :=
  fun s kept => (first s kept).map fun _ kept' => kept'

theorem mapM {f : α → StateT σ (Except ε) β} {xs : List α} (each : ∀ x ∈ xs, Keeps I P (f x)) :
    Keeps I P (xs.mapM f) := by
  induction xs with
  | nil => exact pure []
  | cons x rest ih =>
    rw [List.mapM_cons]
    refine bind (each x List.mem_cons_self) fun y => ?_
    exact bind (ih fun z hz => each z (List.mem_cons_of_mem x hz)) fun ys => pure (y :: ys)

end Keeps

/-- What a step comes to satisfies `R`, from whatever state. -/
def Returns (R : α → Prop) (x : StateT σ (Except ε) α) : Prop :=
  ∀ s r, x.run s = .ok r → R r.1

namespace Returns
variable {R : α → Prop} {T : β → Prop} {x : StateT σ (Except ε) α} {f : α → StateT σ (Except ε) β}

theorem pure {a : α} (good : R a) : Returns R (Pure.pure a : StateT σ (Except ε) α) := by
  intro s r ran
  cases ran
  exact good

theorem throw {e : ε} : Returns R (MonadExcept.throw e : StateT σ (Except ε) α) :=
  fun _ _ ran => by cases ran

theorem bind (first : Returns R x) (next : ∀ a, R a → Returns T (f a)) : Returns T (x >>= f) := by
  intro s r ran
  obtain ⟨⟨a, s'⟩, before, after⟩ := bind_eq_ok_iff.mp ran
  exact next a (first s _ before) s' r after

theorem any (x : StateT σ (Except ε) α) : Returns (fun _ => True) x := fun _ _ _ => trivial

end Returns

/-- What follows a step may rely on what the step comes to. -/
theorem Keeps.bind_returning {R : α → Prop} {x : StateT σ (Except ε) α}
    {f : α → StateT σ (Except ε) β} (first : Keeps I P x) (returns : Returns R x)
    (next : ∀ a, R a → Keeps I P (f a)) : Keeps I P (x >>= f) := by
  intro s kept
  have here := first s kept
  show Yields P (fun r => I r.2) (x.run s >>= fun r => (f r.1).run r.2)
  cases ran : x.run s with
  | ok r =>
    rw [ran] at here
    exact next r.1 (returns s r ran) r.2 (here.of_ok rfl)
  | error e =>
    rw [ran] at here
    exact .error (here.of_error rfl)

end
end ExposureLint
