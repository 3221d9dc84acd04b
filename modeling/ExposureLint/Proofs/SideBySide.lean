import Mathlib

/-!
Two programs run side by side. From related states they go alike: both give results, which are
related too, or both fail with the same; and the states that they leave are related again. A program
that is put together from such steps on both sides is one as well.
-/
namespace ExposureLint

section
variable {ε α β γ δ : Type}

/-- Two outcomes that go alike: both are results, which `Q` relates, or both are one failure. -/
inductive GoAlike (Q : α → β → Prop) : Except ε α → Except ε β → Prop
  | ok {a : α} {b : β} (related : Q a b) : GoAlike Q (.ok a) (.ok b)
  | error (e : ε) : GoAlike Q (.error e) (.error e)

namespace GoAlike
variable {Q : α → β → Prop} {P : γ → δ → Prop} {x : Except ε α} {y : Except ε β}

theorem same (x : Except ε α) : GoAlike Eq x x := by
  cases x with
  | ok a => exact .ok rfl
  | error e => exact .error e

theorem bind {f : α → Except ε γ} {g : β → Except ε δ} (first : GoAlike Q x y)
    (next : ∀ a b, Q a b → GoAlike P (f a) (g b)) : GoAlike P (x >>= f) (y >>= g) := by
  cases first with
  | ok related => exact next _ _ related
  | error e => exact .error e

theorem mono {P : α → β → Prop} (alike : GoAlike Q x y) (weaker : ∀ a b, Q a b → P a b) :
    GoAlike P x y := by
  cases alike with
  | ok related => exact .ok (weaker _ _ related)
  | error e => exact .error e

end GoAlike
end

section
variable {ε σ τ α β γ δ : Type}

/-- From states that `R` relates, two programs go alike, and the states after them are related by
`R` again. -/
def RunAlike (R : σ → τ → Prop) (Q : α → β → Prop) (x : ExceptT ε (StateM σ) α)
    (y : ExceptT ε (StateM τ) β) : Prop :=
  ∀ s t, R s t → GoAlike Q (Id.run (x.run.run s)).1 (Id.run (y.run.run t)).1
    ∧ R (Id.run (x.run.run s)).2 (Id.run (y.run.run t)).2

namespace RunAlike
variable {R : σ → τ → Prop} {Q : α → β → Prop} {P : γ → δ → Prop}
  {x : ExceptT ε (StateM σ) α} {y : ExceptT ε (StateM τ) β}

theorem pure {a : α} {b : β} (related : Q a b) :
    RunAlike R Q (Pure.pure a : ExceptT ε (StateM σ) α) (Pure.pure b : ExceptT ε (StateM τ) β) :=
  fun _ _ kept => ⟨.ok related, kept⟩

theorem throw (e : ε) :
    RunAlike R Q (MonadExcept.throw e : ExceptT ε (StateM σ) α)
      (MonadExcept.throw e : ExceptT ε (StateM τ) β) :=
  fun _ _ kept => ⟨.error e, kept⟩

theorem bind {f : α → ExceptT ε (StateM σ) γ} {g : β → ExceptT ε (StateM τ) δ}
    (first : RunAlike R Q x y) (next : ∀ a b, Q a b → RunAlike R P (f a) (g b)) :
    RunAlike R P (x >>= f) (y >>= g) := by
  intro s t kept
  have here := first s t kept
  -- both go on from the states that they have left, or both stop there
  simp only [ExceptT.run_bind, StateT.run_bind, Id.run_bind]
  rcases ran : Id.run (x.run.run s) with ⟨r, s'⟩
  rcases ran' : Id.run (y.run.run t) with ⟨r', t'⟩
  rw [ran, ran'] at here
  obtain ⟨alike, kept'⟩ := here
  cases alike with
  | ok related => exact next _ _ related s' t' kept'
  | error e => exact ⟨.error e, kept'⟩

/-- One program may go on where the other is over. -/
theorem bind_left {f : α → ExceptT ε (StateM σ) γ} {y : ExceptT ε (StateM τ) δ} {S : α → δ → Prop}
    (first : RunAlike R S x y) (next : ∀ a b, S a b → RunAlike R P (f a) (Pure.pure b)) :
    RunAlike R P (x >>= f) y :=
  bind_pure y ▸ bind first next

theorem get_bind {f : σ → ExceptT ε (StateM σ) γ} {g : τ → ExceptT ε (StateM τ) δ}
    (next : ∀ s t, R s t → RunAlike R P (f s) (g t)) :
    RunAlike R P (MonadState.get >>= f) (MonadState.get >>= g) :=
  fun s t kept => next s t kept s t kept

theorem update {f : σ → σ} {g : τ → τ} (keep : ∀ s t, R s t → R (f s) (g t)) :
    RunAlike R (fun _ _ => True) (modify f : ExceptT ε (StateM σ) PUnit)
      (modify g : ExceptT ε (StateM τ) PUnit) :=
  fun s t kept => ⟨.ok trivial, keep s t kept⟩

/-- Two rows of steps, of which each two at the same position run alike. -/
theorem forM {κ ι : Type} {D : κ → ι → Prop} {f : κ → ExceptT ε (StateM σ) PUnit}
    {g : ι → ExceptT ε (StateM τ) PUnit} {xs : List κ} {ys : List ι}
    (each : ∀ x y, D x y → RunAlike R (fun _ _ => True) (f x) (g y))
    (related : List.Forall₂ D xs ys) : RunAlike R (fun _ _ => True) (xs.forM f) (ys.forM g) := by
  induction related with
  | nil => exact pure trivial
  | cons here _ ih => exact bind (each _ _ here) fun _ _ _ => ih

end RunAlike
end
end ExposureLint
