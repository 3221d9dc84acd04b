import Mathlib
import ExposureLint.Proofs.SideBySide
import ExposureLint.Proofs.Verdict

/-!
The listing of a project beside the check of it. Both find the description, decode it, check it and
list its operations; they fail alike, and where they do not, the check is about the operations that
are listed.
-/
namespace ExposureLint

namespace Step
variable {α β γ : Type} {Q : α → β → Prop} {x : Step α} {y : Step β}

/-- Whatever notes there are before them, two steps go alike. -/
abbrev ComeAlike (Q : α → β → Prop) (x : Step α) (y : Step β) : Prop :=
  RunAlike (fun _ _ => True) Q x y

theorem ComeAlike.outcome (alike : ComeAlike Q x y) : GoAlike Q x.outcome.1 y.outcome.1 :=
  (alike [] [] trivial).1

theorem comeAlike_ofExcept {r : Except Failure α} {r' : Except Failure β} (alike : GoAlike Q r r') :
    ComeAlike Q (ofExcept r) (ofExcept r') := by
  cases alike with
  | ok related => exact .pure related
  | error e => exact .throw e

theorem comeAlike_note_right {n : Note} {f : Unit → Step β} (next : ComeAlike Q x (f ())) :
    ComeAlike Q x (note n >>= f) :=
  fun s _ _ => next s _ trivial

theorem comeAlike_note_left {n : Note} {f : Unit → Step α} (next : ComeAlike Q (f ()) y) :
    ComeAlike Q (note n >>= f) y :=
  fun _ t _ => next _ t trivial

/-- A step comes to the same whatever notes there are before it. -/
abbrev IsSteady (x : Step α) : Prop := ComeAlike Eq x x

namespace IsSteady

theorem bind {f : α → Step γ} (first : x.IsSteady) (next : ∀ a, (f a).IsSteady) :
    IsSteady (x >>= f) :=
  RunAlike.bind first fun a _ same => same ▸ next a

theorem ofExcept (r : Except Failure α) : IsSteady (Step.ofExcept r) := comeAlike_ofExcept (.same r)

theorem failing {e : LintError} {f : α → Step γ} : IsSteady (fail e >>= f) :=
  fun _ _ _ => ⟨.error _, trivial⟩

theorem noted {n : Note} (a : α) : IsSteady (note n >>= fun _ => pure a) :=
  comeAlike_note_left (comeAlike_note_right (.pure rfl))

end IsSteady

theorem outcome_bind_ofExcept (x : Step α) (f : α → Except Failure γ) :
    (x >>= fun a => Step.ofExcept (f a)).outcome.1 = x.outcome.1 >>= f := by
  simp only [outcome, ExceptT.run_bind, StateT.run_bind, Id.run_bind]
  rcases Id.run (x.run.run []) with ⟨r, notes⟩
  cases r with
  | error e => rfl
  | ok a =>
    show (Id.run ((Step.ofExcept (f a)).run.run notes)).1 = f a
    cases f a <;> rfl

end Step

namespace Spec

theorem discover_isSteady (disk : Disk) (root : Text) : (discover disk root).IsSteady := by
  unfold discover
  refine .bind (.ofExcept _) fun place => .bind (.ofExcept _) fun isThere => ?_
  cases isThere with
  | false => exact .failing
  | true =>
    refine .bind (.ofExcept _) fun isDirectory => ?_
    cases isDirectory with
    | false => exact .failing
    | true =>
      refine .bind (.ofExcept _) fun found => ?_
      cases found with
      | some file => exact .noted _
      | none => exact .noted _

end Spec

namespace Report
open Spec

/-- A report is about operations: it has them in their order, and what is found is found about
them. -/
structure IsAbout (r : Report) (ops : List Operation) : Prop where
  operations : r.operations = ops
  findings : r.findings = Finding.ofOperations ops
  complete : r.skipped = false

theorem ofDocument_comeAlike [Host] (specPath : Option Path) (document : Value) :
    Step.ComeAlike IsAbout (ofDocument specPath document) (Step.ofExcept (normalize document)) := by
  unfold ofDocument
  refine .bind_left (Step.IsSteady.ofExcept _) fun ops _ same => ?_
  subst same
  refine Step.comeAlike_note_left (.pure ?_)
  exact ⟨rfl, rfl, rfl⟩

theorem ofProject_comeAlike [Host] (disk : Disk) (root : Text) :
    Step.ComeAlike IsAbout (ofProject disk root false)
      (load disk root >>= fun document => Step.ofExcept (normalize document)) := by
  unfold ofProject load find
  simp only [bind_assoc]
  refine .bind (discover_isSteady disk root) fun found _ same => ?_
  subst same
  cases found with
  | none => exact fun _ _ _ => ⟨.error _, trivial⟩
  | some file =>
    -- from here on only the notes differ: a listing has one of its own
    simp only [pure_bind]
    refine .bind (Step.IsSteady.ofExcept (parse disk file)) fun document _ same => ?_
    subst same
    refine .bind (Step.IsSteady.ofExcept (validate document)) fun version _ same => ?_
    exact Step.comeAlike_note_right (ofDocument_comeAlike (some file) document)

/-- A project that needs a description is checked as it is listed: both fail with the same failure,
or neither does, and then the report is about the operations that are listed. -/
theorem checked_as_listed [Host] (disk : Disk) (root : Text) :
    GoAlike IsAbout (ofProject disk root false).outcome.1
      ((load disk root).outcome.1 >>= normalize) := by
  rw [← Step.outcome_bind_ofExcept]
  exact (ofProject_comeAlike disk root).outcome

end Report
end ExposureLint
