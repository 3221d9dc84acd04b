import Mathlib
import ExposureLint.Finding

/-!
What authentication does to the findings about one operation. Naming schemes where there were some
before finds nothing new; with any scheme only the want of a reason is left to be found, and a
public operation with a reason breaks no rule.
-/
namespace ExposureLint

variable {op : Operation} {names : List Text}

theorem Operation.isAuthenticated_withSecurity (more : op.security ≠ [] → names ≠ [])
    (authenticated : op.isAuthenticated = true) :
    Operation.isAuthenticated { op with security := names } = true := by
  simp only [isAuthenticated, Bool.or_eq_true, Bool.not_eq_true', List.isEmpty_eq_false_iff]
    at authenticated ⊢
  exact authenticated.imp_left more

theorem Rule.isBroken_of_withSecurity {rule : Rule} (more : op.security ≠ [] → names ≠ [])
    (broken : rule.isBroken { op with security := names } = true) : rule.isBroken op = true := by
  have stillOpen (isOpen : Operation.isAuthenticated { op with security := names } = false) :
      op.isAuthenticated = false := by
    rw [Bool.eq_false_iff] at isOpen ⊢
    exact fun authenticated => isOpen (Operation.isAuthenticated_withSecurity more authenticated)
  cases rule with
  | unauthenticatedWrite =>
    simp only [isBroken, Bool.and_eq_true, Bool.not_eq_true'] at broken ⊢
    exact ⟨broken.1, stillOpen broken.2⟩
  | publicWithoutReason => exact broken
  | unauthenticatedRead =>
    simp only [isBroken, Bool.and_eq_true, Bool.not_eq_true'] at broken ⊢
    exact ⟨⟨broken.1.1, stillOpen broken.1.2⟩, broken.2⟩

theorem filterMap_sublist {α β : Type} {f g : α → Option β} (fewer : ∀ x, f x = none ∨ f x = g x)
    (xs : List α) : (xs.filterMap f).Sublist (xs.filterMap g) := by
  induction xs with
  | nil => exact .slnil
  | cons x rest ih =>
    simp only [List.filterMap_cons]
    rcases fewer x with nothing | same
    · rw [nothing]
      cases g x with
      | none => exact ih
      | some y => exact ih.cons y
    · rw [same]
      cases g x with
      | none => exact ih
      | some y => exact ih.cons_cons y

theorem flatMap_sublist {α β γ : Type} {f : α → List γ} {g : β → List γ} {xs : List α}
    {ys : List β} (rows : List.Forall₂ (fun x y => (f x).Sublist (g y)) xs ys) :
    (xs.flatMap f).Sublist (ys.flatMap g) := by
  induction rows with
  | nil => exact .slnil
  | cons here _ ih => exact here.append ih

namespace Finding

/-- Where an operation asks for schemes again if it did before, there is nothing new to find. -/
theorem ofOperation_sublist (more : op.security ≠ [] → names ≠ []) :
    (ofOperation { op with security := names }).Sublist (ofOperation op) := by
  refine filterMap_sublist (fun rule => ?_) Rule.all
  by_cases broken : rule.isBroken { op with security := names } = true
  · have before : rule.isBroken op = true := Rule.isBroken_of_withSecurity more broken
    right
    rw [Rule.check, Rule.check, if_pos broken, if_pos before]
    cases rule <;> rfl
  · left
    rw [Rule.check, if_neg broken]

/-- An operation that asks for a scheme may only lack a reason. -/
theorem ofOperation_secured (asks : names ≠ []) :
    ofOperation { op with security := names } = (Rule.check op .publicWithoutReason).toList := by
  have authenticated : Operation.isAuthenticated { op with security := names } = true := by
    simp [Operation.isAuthenticated, asks]
  have write : Rule.check { op with security := names } .unauthenticatedWrite = none := by
    simp [Rule.check, Rule.isBroken, authenticated]
  have read : Rule.check { op with security := names } .unauthenticatedRead = none := by
    simp [Rule.check, Rule.isBroken, authenticated]
  have same : Rule.check { op with security := names } .publicWithoutReason
      = Rule.check op .publicWithoutReason := rfl
  simp only [ofOperation, Rule.all, List.filterMap_cons, List.filterMap_nil, write, read, same]
  cases Rule.check op .publicWithoutReason <;> rfl

theorem ofOperation_publicised (reason : Text) :
    ofOperation { op with isPublic := true, reason := some reason } = [] := by
  simp [ofOperation, Rule.all, Rule.check, Rule.isBroken, Operation.isAuthenticated]

end Finding
end ExposureLint
