import Mathlib
import ExposureLint.Proofs.CommandRun
import ExposureLint.Proofs.ProjectOutcome

/-!
The exit code of a check. As long as nothing goes wrong that is not foreseen, the code is told by
the project and the settings alone, by the first stage that ends the check, and a check that ends
before there is a report puts nothing on the data stream.
-/
namespace ExposureLint

namespace Settings
variable {disk : Disk} {env : Environment} {c : Choices}

theorem resolve_lint_exitCode [Host] {e : LintError}
    (refused : resolve disk env c = .error (.lint e)) : e.exitCode = 3 := by
  obtain ⟨next, resolved, following⟩ := resolve_eq disk env c
  obtain documented | ⟨m, failed, -⟩ := loadSection_cases disk (rootOf env c)
  · have config : IsConfig (.lint e) :=
      (documented.bind fun entries _ => following entries).of_error (resolved ▸ refused)
    obtain ⟨e', same, -, code⟩ := config
    cases same
    exact code
  · rw [resolved, failed] at refused
    cases refused

end Settings

namespace Cli
open Report Spec
variable {disk : Disk} {surroundings : Surroundings} {stamp : Text} {args : List Text} {line : Line}

/-- The exit code of a check in a disk and an environment, told by the first thing that applies. -/
inductive CheckEnds [Host] (disk : Disk) (env : Environment) (c : Choices) : Int → Prop
  | unsettled {f : Failure} (refused : Settings.resolve disk env c = .error f) :
    CheckEnds disk env c 3
  | noRoot {settings : Settings} (settled : Settings.resolve disk env c = .ok settings)
    (absent : disk.holds Entry.isDirectory (disk.projectAt settings.root) = false) :
    CheckEnds disk env c 4
  | noSpec {settings : Settings} (settled : Settings.resolve disk env c = .ok settings)
    (there : disk.holds Entry.isDirectory (disk.projectAt settings.root) = true)
    (nameless : disk.description? settings.root = none) :
    CheckEnds disk env c (if settings.allowMissing then 0 else 5)
  | undecoded {settings : Settings} {file : Path}
    (settled : Settings.resolve disk env c = .ok settings)
    (there : disk.holds Entry.isDirectory (disk.projectAt settings.root) = true)
    (named : disk.description? settings.root = some file)
    (unreadable : document? disk file = none) : CheckEnds disk env c 7
  | unsound {settings : Settings} {file : Path} {document : Value} {fault : Unsound}
    (settled : Settings.resolve disk env c = .ok settings)
    (there : disk.holds Entry.isDirectory (disk.projectAt settings.root) = true)
    (named : disk.description? settings.root = some file)
    (holds : document? disk file = some document)
    (refused : Spec.check document = .ok (.error fault)) : CheckEnds disk env c 8
  | stopped {settings : Settings} {file : Path} {document : Value} {version : Text} {r : Report}
    (settled : Settings.resolve disk env c = .ok settings)
    (there : disk.holds Entry.isDirectory (disk.projectAt settings.root) = true)
    (named : disk.description? settings.root = some file)
    (holds : document? disk file = some document)
    (sound : Spec.check document = .ok (.ok version))
    (made : (ofDocument (some file) document).outcome.1 = .ok r)
    (stop : r.MustStop settings.strict) : CheckEnds disk env c 10
  | passed {settings : Settings} {file : Path} {document : Value} {version : Text} {r : Report}
    (settled : Settings.resolve disk env c = .ok settings)
    (there : disk.holds Entry.isDirectory (disk.projectAt settings.root) = true)
    (named : disk.description? settings.root = some file)
    (holds : document? disk file = some document)
    (sound : Spec.check document = .ok (.ok version))
    (made : (ofDocument (some file) document).outcome.1 = .ok r)
    (pass : ¬ r.MustStop settings.strict) : CheckEnds disk env c 0

namespace CheckEnds
variable {env : Environment} {c : Choices} {settings : Settings} {r : Report} {e : LintError}
  {code code' : Int}

theorem unique [Host] (ends : CheckEnds disk env c code) (ends' : CheckEnds disk env c code') :
    code = code' := by
  cases ends <;> cases ends' <;> simp_all

/-- No check ends for the format of a file, since only files with a format are looked for. -/
theorem ne_six [Host] (ends : CheckEnds disk env c code) : code ≠ 6 := by
  cases ends with
  | noSpec => split <;> decide
  | _ => decide

theorem ofError [Host] (settled : Settings.resolve disk env c = .ok settings)
    (arises : Arises disk settings.root settings.allowMissing (.error (.lint e))) :
    CheckEnds disk env c e.exitCode := by
  cases arises with
  | noRoot code absent => exact code ▸ .noRoot settled absent
  | noSpec code there nameless required =>
    have ends := CheckEnds.noSpec settled there nameless
    rw [required] at ends
    exact code ▸ ends
  | undecoded code there named unreadable => exact code ▸ .undecoded settled there named unreadable
  | unsound code there named holds refused =>
    exact code ▸ .unsound settled there named holds refused

theorem ofReport [Host] (settled : Settings.resolve disk env c = .ok settings)
    (arises : Arises disk settings.root settings.allowMissing (.ok r)) :
    CheckEnds disk env c ((Answer.report r).code settings.strict) := by
  have blocking := arises.isFaithful.isBlocking_iff settings.strict
  cases arises with
  | skipped there nameless allowed =>
    have passes : (Answer.report skippedReport).code settings.strict = 0 := by
      cases settings.strict <;> rfl
    have ends := CheckEnds.noSpec settled there nameless
    rw [allowed] at ends
    exact passes ▸ ends
  | built there named holds sound made =>
    cases verdict : r.isBlocking settings.strict with
    | true =>
      have stops : (Answer.report r).code settings.strict = 10 := by
        simp [Answer.code, verdict, unsafeCode]
      exact stops ▸ .stopped settled there named holds sound made (blocking.mp verdict)
    | false =>
      have passes : (Answer.report r).code settings.strict = 0 := by simp [Answer.code, verdict]
      refine passes ▸ .passed settled there named holds sound made fun stop => ?_
      rw [blocking.mpr stop] at verdict
      cases verdict

end CheckEnds

/-- A check in which nothing goes wrong that is not foreseen ends with the code that the project and
the settings call for. Unless a report was told, there is nothing on the data stream. -/
theorem run_check [Host] (read : Line.ofArguments? args = some line)
    (isCheck : line.command = .check)
    (foreseen : ∀ m, ((runArguments disk args).run (.start surroundings)).1 ≠ .error (.mishap m)) :
    ∃ code s, (runArguments disk args).run (.start surroundings) = (.ok code, s)
      ∧ CheckEnds disk surroundings.environment line.choices code
      ∧ (code ≠ 0 → code ≠ 10 → s.streams.data = []) := by
  cases made : line.presentation surroundings with
  | error fault => exact absurd (congrArg Prod.fst (run_unpresented read made)) (foreseen _)
  | ok p =>
    have ran := run_line disk read made
    cases settled : Settings.resolve disk surroundings.environment line.choices with
    | error f =>
      rw [settled] at ran
      cases f with
      | mishap m =>
        obtain ⟨s, -, ran⟩ := ran
        exact absurd (congrArg Prod.fst ran) (foreseen m)
      | lint e =>
        obtain ⟨s, ready, ran⟩ := ran
        have code := Settings.resolve_lint_exitCode settled
        exact ⟨_, s, ran, code ▸ .unsettled settled, fun _ _ => ready.silent⟩
    | ok settings =>
      rw [settled, isCheck] at ran
      obtain ⟨s, ready, ran⟩ := ran
      obtain ⟨s', ready', acted⟩ := run_act disk settings ready .check
      have arises := (ofProject_leads disk settings.root settings.allowMissing).outcome
      rw [acted] at ran
      simp only [Answer.find] at ran
      cases found : (ofProject disk settings.root settings.allowMissing).outcome.1 with
      | error f =>
        rw [found] at ran arises
        cases f with
        | mishap m => exact absurd (congrArg Prod.fst ran) (foreseen m)
        | lint e => exact ⟨_, s', ran, .ofError settled arises, fun _ _ => ready'.silent⟩
      | ok r =>
        rw [found] at ran arises
        by_cases able : (Answer.report r).CanBeTold (p.inFormat settings.format) settings.strict
        · have told := ran.trans (run_tell ready'.installed ready'.unblocked able)
          refine ⟨_, _, told, .ofReport settled arises, ?_⟩
          intro passes stops
          simp only [Answer.code, unsafeCode] at passes stops
          split at passes <;> simp_all
        · obtain ⟨m, s'', failed, -⟩ := run_tell_error ready'.installed ready'.unblocked able
          exact absurd (congrArg Prod.fst (ran.trans failed)) (foreseen m)

theorem run_code_of_ok [Host] (stamp : Text) {code : Int}
    (ended : ((runArguments disk args).run (.start surroundings)).1 = .ok code) :
    (run disk surroundings stamp args).code = .ok code := by
  rcases ran : (runArguments disk args).run (.start surroundings) with ⟨last, s⟩
  rw [ran] at ended
  simp only at ended
  subst ended
  simp only [run, ran]
  rfl

/-- The exit code of a check is decided by the first thing that applies, in any rendering: settings
that are refused, a root that is no directory, a project without a description, one that cannot be
decoded, one that is not sound, and then the findings. It is never the code for an unknown format,
and whenever no report comes about there is nothing on the data stream. -/
theorem check_code_iff [Host] (read : Line.ofArguments? args = some line)
    (isCheck : line.command = .check)
    (foreseen : ∀ m, ((runArguments disk args).run (.start surroundings)).1 ≠ .error (.mishap m)) :
    (∃ code, (run disk surroundings stamp args).code = .ok code)
      ∧ (∀ code, (run disk surroundings stamp args).code = .ok code
        ↔ CheckEnds disk surroundings.environment line.choices code)
      ∧ (run disk surroundings stamp args).code ≠ .ok 6
      ∧ ∀ code ∈ [3, 4, 5, 7, 8], (run disk surroundings stamp args).code = .ok code →
        (run disk surroundings stamp args).streams.data = [] := by
  obtain ⟨code, s, ran, ends, silent⟩ := run_check read isCheck foreseen
  have ended : run disk surroundings stamp args = ⟨.ok code, s.streams, disk⟩ := by
    simp only [run, ran]
    rfl
  rw [ended]
  refine ⟨⟨code, rfl⟩, fun code' => ⟨?_, fun ends' => congrArg _ (ends.unique ends')⟩, ?_, ?_⟩
  · rintro ⟨⟩
    exact ends
  · exact fun same => ends.ne_six (Except.ok.inj same)
  · intro code' failing same
    obtain rfl := Except.ok.inj same
    refine silent ?_ ?_ <;> rintro rfl <;> simp at failing

/-- A project with a write that anyone may make. -/
def openWriteDisk : Disk := .withFile "openapi.json"
  "\x7b\"openapi\": \"3.0.0\", \"info\": \x7b\x7d, \"paths\": \x7b\"/a\": \x7b\"post\": \x7b\"requestBody\": 1\x7d\x7d\x7d\x7d"

def openWriteReport : Report :=
  .ofOperations (some ⟨"/", ["w", "openapi.json"]⟩) (some "3.0.0")
    [⟨"POST", "/a", true, false, [], false, none⟩]

theorem ofProject_openWriteDisk :
    (ofProject openWriteDisk "." false).outcome.1 = .ok openWriteReport :=
  toOption_eq_some_iff.mp (by decide +kernel)

theorem open_write_check_code :
    Line.ofArguments? ["--json", "check"]
        = some ⟨⟨true, false, false, false, false, []⟩, .json, .check, .none⟩
      ∧ (∀ m, ((runArguments openWriteDisk ["--json", "check"]).run (.start ⟨false, []⟩)).1
        ≠ .error (.mishap m))
      ∧ (run openWriteDisk ⟨false, []⟩ [] ["--json", "check"]).code = .ok 10
      ∧ CheckEnds openWriteDisk [] (CommandChoices.none.choices .json) 10 := by
  have read : Line.ofArguments? ["--json", "check"]
      = some ⟨⟨true, false, false, false, false, []⟩, .json, .check, .none⟩ := by decide +kernel
  have ended : ((runArguments openWriteDisk ["--json", "check"]).run (.start ⟨false, []⟩)).1
      = .ok 10 := toOption_eq_some_iff.mp (by decide +kernel)
  have foreseen : ∀ m, ((runArguments openWriteDisk ["--json", "check"]).run
      (.start ⟨false, []⟩)).1 ≠ .error (.mishap m) := by
    rw [ended]
    simp
  have code := run_code_of_ok [] ended
  exact ⟨read, foreseen, code, ((check_code_iff read rfl foreseen).2.1 10).mp code⟩

end Cli
end ExposureLint
