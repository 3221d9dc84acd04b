import Mathlib
import ExposureLint.Proofs.RemarkFlags
import ExposureLint.Proofs.Rendering

/-!
How the program ends. An interruption asks for an exit code, and the program ends with it where it
has its last words; but the log of a crash may be one that cannot be written, and then the program
ends with that fault and with no exit code at all.
-/
namespace ExposureLint

/-- Whether something can be said: a presentation is installed, or one can be made. -/
def Session.CanSpeak (s : Session) : Prop :=
  s.presentation.isSome ∨ ∃ n, s.surroundings.columns = .ok n

namespace Act
variable {s : Session}

theorem run_remark_unpresented {n : Nat} (kind : Remark) (message : Text)
    (silent : s.presentation = none) (sized : s.surroundings.columns = .ok n) :
    ∃ s', (remark kind message).run s = (.ok (), s') := by
  obtain ⟨p, made⟩ : ∃ p, Presentation.standard s.surroundings = .ok p := by
    simp [Presentation.standard, Presentation.make, sized, bind, Except.bind, pure, Except.pure]
  have ran : current.run s = (.ok p, { s with presentation := some p, blocked := none }) := by
    rw [current, run_bind_ok run_get, silent]
    simp only [made]
    rfl
  rw [remark, say, run_bind_ok ran, run_bind_ok run_get]
  exact ⟨_, rfl⟩

end Act

namespace Cli

def Interruption.code : Interruption → Int
  | .exit code => code
  | .interrupt => interruptCode
  | .failure (.lint e) => e.exitCode
  | .failure (.mishap _) => crashCode

def Interruption.ofResult : Except Failure Int → Interruption
  | .ok code => .exit code
  | .error f => .failure f

section
variable [Host] {disk : Disk} {stamp : Text} {s : Session} {i : Interruption}

/-- Interruptions after which all that is left to do can be done: what is foreseen is told, and what
is not is written to a log before that is told. -/
inductive EndsWell (disk : Disk) (stamp : Text) (s : Session) : Interruption → Prop
  | exit (code : Int) : EndsWell disk stamp s (.exit code)
  | interrupt : EndsWell disk stamp s .interrupt
  | foreseen {e : LintError} (speaks : s.CanSpeak) : EndsWell disk stamp s (.failure (.lint e))
  | crash {m : Mishap} {after : Disk} {file : Path}
      (logged : disk.LogComesTo s.surroundings.environment stamp m (after, .ok file))
      (speaks : s.CanSpeak) : EndsWell disk stamp s (.failure (.mishap m))

/-- What the end of the program fails of, after an interruption. -/
inductive LastFault (disk : Disk) (stamp : Text) (s : Session) : Interruption → Mishap → Prop
  | untold {e : LintError} {fault : Numeral.Fault} (silent : s.presentation = none)
      (refused : s.surroundings.columns = .error fault) :
      LastFault disk stamp s (.failure (.lint e)) (.number fault)
  | unlogged {m : Mishap} {after : Disk} {fault : FileFault}
      (failed : disk.LogComesTo s.surroundings.environment stamp m (after, .error fault)) :
      LastFault disk stamp s (.failure (.mishap m)) (.file fault)
  | unspoken {m : Mishap} {after : Disk} {file : Path} {fault : Numeral.Fault}
      (logged : disk.LogComesTo s.surroundings.environment stamp m (after, .ok file))
      (silent : s.presentation = none) (refused : s.surroundings.columns = .error fault) :
      LastFault disk stamp s (.failure (.mishap m)) (.number fault)

def lastWords (logged : Disk × Except Mishap Path) (s : Session) : Outcome :=
  match logged with
  | (disk, .error m) => ⟨.error m, s.streams, disk⟩
  | (disk, .ok file) => leave disk ("Unexpected error. Debug log: " ++ file.text) crashCode s

omit [Host] in
theorem leave_code_of_canSpeak {message : Text} {code : Int} (speaks : s.CanSpeak) :
    (leave disk message code s).code = .ok code := by
  cases installed : s.presentation with
  | some p => exact leave_code installed
  | none =>
    obtain some | ⟨n, sized⟩ := speaks
    · simp [installed] at some
    · obtain ⟨s', ran⟩ := Act.run_remark_unpresented .error message installed sized
      rw [leave, ran]

omit [Host] in
theorem silent_of_not_canSpeak (silent : ¬ s.CanSpeak) :
    s.presentation = none ∧ ∃ fault, s.surroundings.columns = .error fault := by
  obtain ⟨none, unsized⟩ := not_or.mp silent
  refine ⟨by simpa using none, ?_⟩
  cases columns : s.surroundings.columns with
  | ok n => exact absurd ⟨n, columns⟩ unsized
  | error fault => exact ⟨fault, rfl⟩

omit [Host] in
theorem leave_code_iff {message : Text} {code : Int} :
    (leave disk message code s).code = .ok code ↔ s.CanSpeak := by
  refine ⟨fun ended => ?_, leave_code_of_canSpeak⟩
  by_contra silent
  obtain ⟨none, fault, refused⟩ := silent_of_not_canSpeak silent
  rw [leave_code_of_refused none refused] at ended
  cases ended

theorem conclude_eq_lastWords (m : Mishap) :
    conclude disk stamp (.failure (.mishap m)) s
      = lastWords ((disk.writeCrashLog s.surroundings.environment stamp m).map id
        fun file => file.mapError .file) s := by
  simp only [conclude, lastWords]
  rcases disk.writeCrashLog s.surroundings.environment stamp m with ⟨disk, fault | file⟩ <;> rfl

theorem conclude_unlogged {m : Mishap} {after : Disk} {fault : FileFault}
    (failed : disk.LogComesTo s.surroundings.environment stamp m (after, .error fault)) :
    (conclude disk stamp (.failure (.mishap m)) s).code = .error (.file fault) := by
  rw [conclude, failed.eq]

theorem conclude_logged {m : Mishap} {after : Disk} {file : Path}
    (logged : disk.LogComesTo s.surroundings.environment stamp m (after, .ok file)) :
    conclude disk stamp (.failure (.mishap m)) s
      = leave after ("Unexpected error. Debug log: " ++ file.text) crashCode s := by
  rw [conclude, logged.eq]

theorem conclude_of_endsWell (ends : EndsWell disk stamp s i) :
    (conclude disk stamp i s).code = .ok i.code := by
  cases ends with
  | exit code => rfl
  | interrupt => rfl
  | foreseen speaks => exact leave_code_of_canSpeak speaks
  | crash logged speaks =>
    rw [conclude_logged logged]
    exact leave_code_of_canSpeak speaks

theorem conclude_of_lastFault {m : Mishap} (fails : LastFault disk stamp s i m) :
    (conclude disk stamp i s).code = .error m := by
  cases fails with
  | untold silent refused => exact leave_code_of_refused silent refused
  | unlogged failed => exact conclude_unlogged failed
  | unspoken logged silent refused =>
    rw [conclude_logged logged]
    exact leave_code_of_refused silent refused

theorem endsWell_or_lastFault (disk : Disk) (stamp : Text) (s : Session) (i : Interruption) :
    EndsWell disk stamp s i ∨ ∃ m, LastFault disk stamp s i m := by
  cases i with
  | exit code => exact .inl (.exit code)
  | interrupt => exact .inl .interrupt
  | failure f =>
    cases f with
    | lint e =>
      by_cases speaks : s.CanSpeak
      · exact .inl (.foreseen speaks)
      · obtain ⟨none, fault, refused⟩ := silent_of_not_canSpeak speaks
        exact .inr ⟨_, .untold none refused⟩
    | mishap m =>
      obtain ⟨after, fault | file, comes⟩ :=
        disk.exists_logComesTo s.surroundings.environment stamp m
      · exact .inr ⟨_, .unlogged comes⟩
      · by_cases speaks : s.CanSpeak
        · exact .inl (.crash comes speaks)
        · obtain ⟨none, fault, refused⟩ := silent_of_not_canSpeak speaks
          exact .inr ⟨_, .unspoken comes none refused⟩

theorem conclude_code_iff (i : Interruption) :
    ((conclude disk stamp i s).code = .ok i.code ↔ EndsWell disk stamp s i)
      ∧ ∀ m, (conclude disk stamp i s).code = .error m ↔ LastFault disk stamp s i m := by
  obtain well | ⟨m, fails⟩ := endsWell_or_lastFault disk stamp s i
  · have ended := conclude_of_endsWell well
    refine ⟨iff_of_true ended well, fun m => iff_of_false ?_ fun fails => ?_⟩
    · simp [ended]
    · cases ended.symm.trans (conclude_of_lastFault fails)
  · have ended := conclude_of_lastFault fails
    refine ⟨iff_of_false ?_ fun well => ?_, fun m' => ⟨fun same => ?_, conclude_of_lastFault⟩⟩
    · simp [ended]
    · cases ended.symm.trans (conclude_of_endsWell well)
    · cases ended.symm.trans same
      exact fails

omit [Host] in
theorem lastWords_code_iff (logged : Disk × Except Mishap Path) :
    (lastWords logged s).code = .ok crashCode ↔ (∃ file, logged.2 = .ok file) ∧ s.CanSpeak := by
  obtain ⟨disk, m | file⟩ := logged
  · simp [lastWords]
  · simp [lastWords, leave_code_iff]

omit [Host] in
theorem lastWords_code_of_error {logged : Disk × Except Mishap Path} {m : Mishap}
    (failed : logged.2 = .error m) : (lastWords logged s).code = .error m := by
  obtain ⟨disk, result⟩ := logged
  cases failed
  rfl

theorem runArguments_place (disk : Disk) (surroundings : Surroundings) (args : List Text) :
    ((runArguments disk args).run (.start surroundings)).2.surroundings = surroundings := by
  have fresh : Session.SameData surroundings (.start surroundings) (.start surroundings) :=
    ⟨rfl, rfl, .none, rfl, rfl⟩
  have read : GoAlike RootChoices.Followed (RootChoices.read args) (RootChoices.read args) :=
    (GoAlike.same _).mono fun x _ same => same ▸ ⟨.refl x.1, rfl⟩
  exact (saysAlike_runArguments disk read _ _ fresh).2.place

theorem run_eq_conclude {surroundings : Surroundings} {args : List Text}
    {result : Except Failure Int}
    (ran : (runArguments disk args).run (.start surroundings) = (result, s)) :
    run disk surroundings stamp args = conclude disk stamp (.ofResult result) s := by
  rw [run, ran]
  cases result <;> rfl

/-- Where a screen has a size and a log can be written, all goes well in the end. -/
theorem endsWell_of_logged {n : Nat} {result : Except Failure Int}
    (sized : s.surroundings.columns = .ok n)
    (logs : ∀ m, result = .error (.mishap m) →
      ∃ after file, disk.LogComesTo s.surroundings.environment stamp m (after, .ok file)) :
    EndsWell disk stamp s (.ofResult result) := by
  have speaks : s.CanSpeak := .inr ⟨n, sized⟩
  cases result with
  | ok code => exact .exit code
  | error f =>
    cases f with
    | lint e => exact .foreseen speaks
    | mishap m =>
      obtain ⟨after, file, logged⟩ := logs m rfl
      exact .crash logged speaks

/-- The program ends with the exit code that an interruption asks for exactly when what is left to
do can be done: always after an exit and an interrupt, after a foreseen error when it can be told,
and after anything else when a log of it can be written, too. Otherwise it ends with a fault of its
own, which is told exactly, and with no exit code. The same holds for whatever becomes of the log,
and every run of a command line ends in this way. -/
theorem ends_well_iff (disk : Disk) (stamp : Text) :
    (∀ i s, ((conclude disk stamp i s).code = .ok i.code ↔ EndsWell disk stamp s i)
        ∧ ∀ m, (conclude disk stamp i s).code = .error m ↔ LastFault disk stamp s i m)
      ∧ (∀ i s, EndsWell disk stamp s i ∨ ∃ m, LastFault disk stamp s i m)
      ∧ (∀ m s, conclude disk stamp (.failure (.mishap m)) s
        = lastWords ((disk.writeCrashLog s.surroundings.environment stamp m).map id
          fun file => file.mapError .file) s)
      ∧ (∀ logged s, ((lastWords logged s).code = .ok crashCode
          ↔ (∃ file, logged.2 = .ok file) ∧ s.CanSpeak)
        ∧ ∀ m, logged.2 = .error m → (lastWords logged s).code = .error m)
      ∧ ∀ surroundings args result s,
        (runArguments disk args).run (.start surroundings) = (result, s) →
        s.surroundings = surroundings
          ∧ run disk surroundings stamp args = conclude disk stamp (.ofResult result) s
          ∧ ∀ n, surroundings.columns = .ok n →
            (∀ m, result = .error (.mishap m) →
              ∃ after file, disk.LogComesTo surroundings.environment stamp m (after, .ok file)) →
            (run disk surroundings stamp args).code = .ok (Interruption.ofResult result).code := by
  refine ⟨fun i s => conclude_code_iff i, fun i s => endsWell_or_lastFault disk stamp s i,
    fun m s => conclude_eq_lastWords m,
    fun logged s => ⟨lastWords_code_iff logged, fun m => lastWords_code_of_error⟩,
    fun surroundings args result s ran => ?_⟩
  have place := runArguments_place disk surroundings args
  rw [ran] at place
  replace place : s.surroundings = surroundings := place
  refine ⟨place, run_eq_conclude ran, fun n sized logs => ?_⟩
  rw [run_eq_conclude ran]
  rw [← place] at sized logs
  exact conclude_of_endsWell (endsWell_of_logged sized logs)

end

theorem bad_date_check_ends_well :
    (Surroundings.mk false [("HOME", "/w")]).columns = .ok 80
      ∧ (∃ after file, Spec.badDateDisk.LogComesTo [("HOME", "/w")] "now"
        (.scalar (.calendar .month)) (after, .ok file))
      ∧ (run Spec.badDateDisk ⟨false, [("HOME", "/w")]⟩ "now" ["check"]).code = .ok crashCode := by
  have sized : (Surroundings.mk false [("HOME", "/w")]).columns = .ok 80 :=
    toOption_eq_some_iff.mp (by decide +kernel)
  have crashes : ((runArguments Spec.badDateDisk ["check"]).run
      (.start ⟨false, [("HOME", "/w")]⟩)).1 = .error (.mishap (.scalar (.calendar .month))) :=
    Spec.isBadMonth_iff.mp (by decide +kernel)
  have wrote : (Spec.badDateDisk.writeCrashLog [("HOME", "/w")] "now"
      (.scalar (.calendar .month))).2
      = .ok ⟨"/", ["w", ".local", "share", "dispatchlint", "logs", "crash-now.log"]⟩ :=
    toOption_eq_some_iff.mp (by decide +kernel)
  have logged := Disk.exists_logged wrote
  have ended := ((ends_well_iff Spec.badDateDisk "now").2.2.2.2 ⟨false, [("HOME", "/w")]⟩ ["check"]
    _ _ Prod.mk.eta.symm).2.2 80 sized
  rw [crashes] at ended
  refine ⟨sized, logged, ended fun m same => ?_⟩
  cases same
  exact logged

/-- The path in a fault that a program ends with, where it leads through a file. -/
def throughFile? : Except Mishap Int → Option Path
  | .error (.file (.notDirectory file)) => some file
  | _ => none

theorem throughFile?_eq_some_iff {code : Except Mishap Int} {file : Path} :
    throughFile? code = some file ↔ code = .error (.file (.notDirectory file)) := by
  unfold throughFile?
  split <;> simp_all

def fileForData : Environment := [("XDG_DATA_HOME", "/w/openapi.yaml")]

/-- A crash whose log cannot be written has no exit code. -/
theorem unlogged_crash_has_no_code :
    (run Spec.badDateDisk ⟨false, fileForData⟩ "now" ["check"]).code
        = .error (.file (.notDirectory ⟨"/", ["w", "openapi.yaml", "dispatchlint"]⟩))
      ∧ ∀ code, (run Spec.badDateDisk ⟨false, fileForData⟩ "now" ["check"]).code ≠ .ok code := by
  have failed : (run Spec.badDateDisk ⟨false, fileForData⟩ "now" ["check"]).code
      = .error (.file (.notDirectory ⟨"/", ["w", "openapi.yaml", "dispatchlint"]⟩)) :=
    throughFile?_eq_some_iff.mp (by decide +kernel)
  exact ⟨failed, fun code ended => by cases failed.symm.trans ended⟩

end Cli
end ExposureLint
