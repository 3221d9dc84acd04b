import Mathlib
import ExposureLint.Proofs.SettingsFailure
import ExposureLint.Proofs.Verdict

/-!
What looking at a project comes to. Its directory is there or not, the first of the names that is a
file there is its description, and the description is decoded and checked. What is foreseen to go
wrong has the exit code of the stage at which it does.
-/
namespace ExposureLint

/-- Whatever notes there are before it, a step comes to what satisfies `R`. -/
def Step.Leads {α : Type} (R : Except Failure α → Prop) (step : Step α) : Prop :=
  ∀ notes, R (Id.run (step.run.run notes)).1

namespace Step.Leads
variable {α β : Type} {R : Except Failure α → Prop} {T : Except Failure β → Prop}

theorem outcome {step : Step α} (leads : step.Leads R) : R step.outcome.1 := leads []

theorem pure {a : α} (good : R (.ok a)) : Step.Leads R (Pure.pure a) := fun _ => good

theorem fail {e : LintError} (good : R (.error (.lint e))) : Step.Leads R (Step.fail e) :=
  fun _ => good

theorem bind {step : Step α} {f : α → Step β} (first : step.Leads R)
    (next : ∀ a, R (.ok a) → (f a).Leads T) (failed : ∀ e, R (.error e) → T (.error e)) :
    Step.Leads T (step >>= f) := by
  intro notes
  have here := first notes
  simp only [ExceptT.run_bind, StateT.run_bind, Id.run_bind]
  rcases ran : Id.run (step.run.run notes) with ⟨r, notes'⟩
  rw [ran] at here
  cases r with
  | ok a => exact next a here notes'
  | error e => exact failed e here

theorem note {n : Note} {f : Unit → Step β} (next : (f ()).Leads T) :
    Step.Leads T (Step.note n >>= f) :=
  fun _ => next _

theorem failing {e : LintError} {f : α → Step β} (good : T (.error (.lint e))) :
    Step.Leads T (Step.fail e >>= f) :=
  fun _ => good

theorem take {r : Except Failure α} {f : α → Step β} (next : ∀ a, r = .ok a → (f a).Leads T)
    (failed : ∀ e, r = .error e → T (.error e)) : Step.Leads T (Step.ofExcept r >>= f) := by
  cases r with
  | ok a => exact next a rfl
  | error e => exact fun _ => failed e rfl

theorem ask {r : Except FileFault α} {f : α → Step β} (mishap : ∀ m, T (.error (.mishap m)))
    (next : ∀ a, r = .ok a → (f a).Leads T) : Step.Leads T (Step.ofDisk r >>= f) := by
  refine take (fun a asked => next a (mapError_eq_ok_iff.mp asked)) fun e failed => ?_
  obtain ⟨fault, -, rfl⟩ := mapError_eq_error_iff.mp failed
  exact mishap _

end Step.Leads

namespace Disk
variable {disk : Disk} {file : Path}

/-- Whether a path leads to an entry of some kind; what cannot be followed leads to none. -/
def holds (kind : Entry → Bool) (d : Disk) (p : Path) : Bool :=
  match d.status p with
  | .found _ e => kind e
  | _ => false

theorem leadsTo_eq_holds {kind : Entry → Bool} {told : Bool}
    (answered : disk.leadsTo kind file = .ok told) : disk.holds kind file = told := by
  unfold leadsTo at answered
  unfold holds
  split at answered <;> cases answered <;> simp_all

theorem holds_isDirectory_of_missing (missing : disk.holds (fun _ => true) file = false) :
    disk.holds Entry.isDirectory file = false := by
  unfold holds at missing ⊢
  split at missing
  · cases missing
  · rfl

theorem findM?_isFile_eq {paths : List Path} {found : Option Path}
    (told : paths.findM? disk.isFile = .ok found) :
    found = paths.find? (disk.holds Entry.isFile) := by
  induction paths with
  | nil =>
    cases told
    rfl
  | cons p rest ih =>
    rw [List.findM?] at told
    obtain ⟨there, answered, next⟩ := bind_eq_ok_iff.mp told
    rw [List.find?_cons, leadsTo_eq_holds answered]
    cases there with
    | true => exact (Except.ok.inj next).symm
    | false => exact ih next

/-- The place of a project: its root in the shortest form. -/
def projectAt (d : Disk) (root : Text) : Path := (Path.ofText root).resolve d.here

theorem projectAt_eq_of_resolve {root : Text} {place : Path}
    (resolved : disk.resolve (Path.ofText root) = .ok place) : disk.projectAt root = place := by
  unfold resolve at resolved
  split at resolved
  · cases resolved
  · split at resolved
    · cases resolved
    · exact Except.ok.inj resolved

def description? (d : Disk) (root : Text) : Option Path :=
  (specNames.map (d.projectAt root).child).find? (d.holds Entry.isFile)

end Disk

namespace Spec
variable {disk : Disk} {root : Text} {file : Path} {document : Value}

inductive Discovers (disk : Disk) (root : Text) : Except Failure (Option Path) → Prop
  | mishap (m : Mishap) : Discovers disk root (.error (.mishap m))
  | noRoot {e : LintError} (code : e.exitCode = 4)
    (absent : disk.holds Entry.isDirectory (disk.projectAt root) = false) :
    Discovers disk root (.error (.lint e))
  | found (there : disk.holds Entry.isDirectory (disk.projectAt root) = true) :
    Discovers disk root (.ok (disk.description? root))

theorem discover_leads (disk : Disk) (root : Text) :
    (discover disk root).Leads (Discovers disk root) := by
  unfold discover
  refine .ask .mishap fun place resolved => ?_
  obtain rfl := Disk.projectAt_eq_of_resolve resolved
  refine .ask .mishap fun isThere answered => ?_
  have known := Disk.leadsTo_eq_holds answered
  cases isThere with
  | false => exact .failing (.noRoot rfl (Disk.holds_isDirectory_of_missing known))
  | true =>
    refine .ask .mishap fun isDirectory answered => ?_
    have known := Disk.leadsTo_eq_holds answered
    cases isDirectory with
    | false => exact .failing (.noRoot rfl known)
    | true =>
      refine .ask .mishap fun found told => ?_
      have first : Discovers disk root (.ok found) :=
        Disk.findM?_isFile_eq told ▸ Discovers.found known
      cases found with
      | some file => exact .note (.pure first)
      | none => exact .note (.pure first)

theorem suffix_child (p : Path) (name : Text) :
    (p.child name).suffix = (Path.mk [] [name]).suffix := by
  simp [Path.suffix, Path.name, Path.child]

theorem exists_format (named : disk.description? root = some file) :
    ∃ format, Format.ofPath? file = some format := by
  have all : ∀ name ∈ specNames, (Format.ofPath? ⟨[], [name]⟩).isSome = true := by decide +kernel
  obtain ⟨name, listed, rfl⟩ := List.mem_map.mp (List.mem_of_find?_eq_some named)
  have same : Format.ofPath? ((disk.projectAt root).child name) = Format.ofPath? ⟨[], [name]⟩ := by
    simp [Format.ofPath?, suffix_child]
  rw [same]
  exact Option.isSome_iff_exists.mp (all name listed)

/-- The document in a file, if its text can be read and is one of the format of the file. -/
def document? [Host] (disk : Disk) (file : Path) : Option Value := do
  let format ← Format.ofPath? file
  let whole ← (disk.readText file).toOption
  (format.read whole).toOption

theorem document?_eq_parse [Host] (disk : Disk) {format : Format}
    (supported : Format.ofPath? file = some format) :
    document? disk file = (parse disk file).toOption := by
  refine Option.ext fun document => ?_
  rw [toOption_eq_some_iff, parse_eq_ok_iff supported]
  simp [document?, supported, Option.bind_eq_some_iff, toOption_eq_some_iff]

inductive Parses [Host] (disk : Disk) (file : Path) : Except Failure Value → Prop
  | mishap (m : Mishap) : Parses disk file (.error (.mishap m))
  | undecoded {e : LintError} (code : e.exitCode = 7) (unreadable : document? disk file = none) :
    Parses disk file (.error (.lint e))
  | held {document : Value} (holds : document? disk file = some document) :
    Parses disk file (.ok document)

theorem parse_parses [Host] (disk : Disk) {format : Format}
    (supported : Format.ofPath? file = some format) :
    Parses disk file (parse disk file) := by
  have same := document?_eq_parse disk supported
  cases parsed : parse disk file with
  | ok document => exact .held (by rw [same, parsed]; rfl)
  | error f =>
    cases f with
    | mishap m => exact .mishap m
    | lint e =>
      refine .undecoded ?_ (by rw [same, parsed]; rfl)
      have documented := (parse_cases disk supported).resolve_right fun ⟨m, failed, _⟩ => by
        cases parsed.symm.trans failed
      rw [parsed] at documented
      cases documented <;> rfl

theorem validate_eq_ok_iff [Host] {version : Text} :
    validate document = .ok version ↔ check document = .ok (.ok version) := by
  unfold validate
  split <;> simp_all

/-- A document that is not validated is refused, or what it has for a version cannot be
told. -/
theorem validate_error_cases [Host] {f : Failure} (failed : validate document = .error f) :
    (∃ m, f = .mishap m)
      ∨ ∃ fault, check document = .ok (.error fault) ∧ f = .lint (.unsound fault) := by
  unfold validate at failed
  split at failed
  · cases failed
    exact .inl ⟨_, rfl⟩
  · rename_i fault refused
    cases failed
    exact .inr ⟨fault, refused, rfl⟩
  · cases failed

end Spec

namespace Report
open Spec
variable {disk : Disk} {root : Text} {allowMissing : Bool} {r : Report}

/-- A deployment must stop at a blocking finding, and strictly at any. -/
def MustStop (strict : Bool) (r : Report) : Prop :=
  (∃ f ∈ r.findings, f.severity = .block) ∨ strict = true ∧ r.findings ≠ []

/-- The verdict and the counts of a report are those of its findings. -/
structure IsFaithful (r : Report) : Prop where
  safe : r.safe = isSafe (r.findings.map (·.severity))
  summary : r.summary = .ofFindings r.findings

theorem complete_of_ofDocument [Host] {specPath : Option Path} {document : Value}
    (made : (ofDocument specPath document).outcome.1 = .ok r) : r.skipped = false := by
  obtain ⟨ops, -, rfl⟩ := ofDocument_eq_ok_iff.mp made
  rfl

namespace IsFaithful

theorem ofOperations (specPath : Option Path) (version : Option Text) (ops : List Operation) :
    (Report.ofOperations specPath version ops).IsFaithful := ⟨rfl, rfl⟩

theorem ofDocument [Host] {specPath : Option Path} {document : Value}
    (made : (Report.ofDocument specPath document).outcome.1 = .ok r) : r.IsFaithful := by
  obtain ⟨ops, -, rfl⟩ := ofDocument_eq_ok_iff.mp made
  exact ofOperations _ _ _

theorem isBlocking_iff (faithful : r.IsFaithful) (strict : Bool) :
    r.isBlocking strict = true ↔ r.MustStop strict := by
  have safe : r.safe = false ↔ ∃ f ∈ r.findings, f.severity = .block := by
    simp [faithful.safe, isSafe]
  cases strict with
  | false => simp [isBlocking, MustStop, safe]
  | true =>
    simp only [isBlocking, MustStop, if_true, Bool.not_eq_true', List.isEmpty_eq_false_iff, true_and]
    refine ⟨.inr, ?_⟩
    rintro (⟨f, listed, -⟩ | some)
    · exact List.ne_nil_of_mem listed
    · exact some

end IsFaithful

inductive Arises [Host] (disk : Disk) (root : Text) (allowMissing : Bool) :
    Except Failure Report → Prop
  | mishap (m : Mishap) : Arises disk root allowMissing (.error (.mishap m))
  | noRoot {e : LintError} (code : e.exitCode = 4)
    (absent : disk.holds Entry.isDirectory (disk.projectAt root) = false) :
    Arises disk root allowMissing (.error (.lint e))
  | noSpec {e : LintError} (code : e.exitCode = 5)
    (there : disk.holds Entry.isDirectory (disk.projectAt root) = true)
    (nameless : disk.description? root = none) (required : allowMissing = false) :
    Arises disk root allowMissing (.error (.lint e))
  | skipped (there : disk.holds Entry.isDirectory (disk.projectAt root) = true)
    (nameless : disk.description? root = none) (allowed : allowMissing = true) :
    Arises disk root allowMissing (.ok skippedReport)
  | undecoded {e : LintError} {file : Path} (code : e.exitCode = 7)
    (there : disk.holds Entry.isDirectory (disk.projectAt root) = true)
    (named : disk.description? root = some file)
    (unreadable : document? disk file = none) :
    Arises disk root allowMissing (.error (.lint e))
  | unsound {e : LintError} {file : Path} {document : Value} {fault : Unsound}
    (code : e.exitCode = 8)
    (there : disk.holds Entry.isDirectory (disk.projectAt root) = true)
    (named : disk.description? root = some file) (holds : document? disk file = some document)
    (refused : Spec.check document = .ok (.error fault)) :
    Arises disk root allowMissing (.error (.lint e))
  | built {file : Path} {document : Value} {version : Text} {r : Report}
    (there : disk.holds Entry.isDirectory (disk.projectAt root) = true)
    (named : disk.description? root = some file) (holds : document? disk file = some document)
    (sound : Spec.check document = .ok (.ok version))
    (made : (ofDocument (some file) document).outcome.1 = .ok r) :
    Arises disk root allowMissing (.ok r)

theorem ofProject_leads [Host] (disk : Disk) (root : Text) (allowMissing : Bool) :
    (ofProject disk root allowMissing).Leads (Arises disk root allowMissing) := by
  unfold ofProject
  refine .bind (discover_leads disk root) (fun found discovered => ?_) fun e failed => ?_
  case refine_2 =>
    cases failed with
    | mishap m => exact .mishap m
    | noRoot code absent => exact .noRoot code absent
  obtain ⟨there, named⟩ : disk.holds Entry.isDirectory (disk.projectAt root) = true
      ∧ disk.description? root = found := by
    cases discovered with
    | found there => exact ⟨there, rfl⟩
  cases found with
  | none =>
    cases allowMissing with
    | true => exact .note (.pure (.skipped there named rfl))
    | false => exact .fail (.noSpec rfl there named rfl)
  | some file =>
    obtain ⟨format, supported⟩ := exists_format named
    have parses := parse_parses disk supported
    refine .take (fun document parsed => ?_) fun e failed => ?_
    case refine_2 =>
      rw [failed] at parses
      cases parses with
      | mishap m => exact .mishap m
      | undecoded code unreadable => exact .undecoded code there named unreadable
    have holds : document? disk file = some document := by
      rw [parsed] at parses
      cases parses with
      | held holds => exact holds
    refine .take (fun version validated => ?_) fun e failed => ?_
    case refine_2 =>
      obtain ⟨m, rfl⟩ | ⟨fault, refused, rfl⟩ := validate_error_cases failed
      · exact .mishap m
      · exact .unsound rfl there named holds refused
    intro notes
    cases listed : normalize document with
    | error e =>
      obtain ⟨obstacle, -, rfl⟩ := mapError_eq_error_iff.mp listed
      simp only [ofDocument, listed]
      cases obstacle <;> exact .mishap _
    | ok ops =>
      have sound := validate_eq_ok_iff.mp validated
      have made : (ofDocument (some file) document).outcome.1 = .ok _ :=
        ofDocument_eq_ok_iff.mpr ⟨ops, listed, rfl⟩
      simp only [ofDocument, listed]
      exact .built there named holds sound made

theorem Arises.isFaithful [Host] (arises : Arises disk root allowMissing (.ok r)) :
    r.IsFaithful := by
  cases arises with
  | skipped => exact ⟨rfl, rfl⟩
  | built _ _ _ _ made => exact .ofDocument made

end Report
end ExposureLint
