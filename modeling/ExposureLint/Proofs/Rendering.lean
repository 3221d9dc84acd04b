import Mathlib
import ExposureLint.Proofs.CrashLog
import ExposureLint.Proofs.Drawing
import ExposureLint.Proofs.ExitCode
import ExposureLint.Proofs.SettingsRecord

/-!
What the exit code has to do with the rendering. Command lines that are alike but for the format
find the same answer, and so their exit codes differ just when the answer can be told in one
rendering and not in the other. Plain texts can be told in all of them.
-/
namespace ExposureLint

/-- Environments that agree on all variables but the one for the format. -/
def Environment.Alike (a b : Environment) : Prop :=
  ∀ name, name ≠ Environment.format → a.get? name = b.get? name

namespace Environment.Alike
variable {a b : Environment}

theorem filled? (alike : a.Alike b) (name : Text) (other : name ≠ Environment.format) :
    a.filled? name = b.filled? name := by
  simp only [Environment.filled?, alike name other]

theorem bool? (alike : a.Alike b) (name : Text) (other : name ≠ Environment.format) :
    a.bool? name = b.bool? name := by
  simp only [Environment.bool?, alike name other]

theorem dataDirectory [Host] (alike : a.Alike b) (system : Text) :
    a.dataDirectory system = b.dataDirectory system := by
  have home : a.home = b.home := by
    simp only [Environment.home, alike "HOME" (by decide)]
  simp only [Environment.dataDirectory, home, alike.filled? "XDG_DATA_HOME" (by decide)]

end Environment.Alike

/-- Surroundings that are alike but for the terminal and the variable for the format. -/
def Surroundings.Alike (a b : Surroundings) : Prop := a.environment.Alike b.environment

namespace Surroundings.Alike
variable {a b : Surroundings}

theorem columns (alike : a.Alike b) : a.columns = b.columns := by
  have same (name : Text) (other : name ≠ Environment.format) :
      a.dimension? name = b.dimension? name := by
    simp only [Surroundings.dimension?, alike name other]
  simp only [Surroundings.columns, same "COLUMNS" (by decide), same "LINES" (by decide)]

theorem noColor (alike : a.Alike b) : a.noColor = b.noColor := by
  simp only [Surroundings.noColor, Surroundings.terminalName, alike "NO_COLOR" (by decide),
    alike "TERM" (by decide)]

theorem palette? (alike : a.Alike b) : a.palette? = b.palette? := by
  simp only [Surroundings.palette?, Surroundings.terminalName, alike "TERM" (by decide),
    alike "COLORTERM" (by decide)]

end Surroundings.Alike

namespace Settings
variable {disk : Disk} {env env' : Environment} {c c' : Choices}

/-- The entries that settings are made from, but for the root and the format. -/
def preset [Host] (disk : Disk) (env : Environment) (c : Choices) :
    Except Failure (List (Scalar × Value)) := do
  let entries ← loadSection disk (rootOf env c)
  let asFailure (fault : SettingsFault) : Failure := .lint (.settings fault)
  let envStrict ← (env.bool? Environment.strict).mapError asFailure
  let envAllow ← (env.bool? Environment.allowMissing).mapError asFailure
  return entries
    |> override "strict" ((c.strict.or envStrict).map .bool)
    |> override "allow_missing_spec" ((c.allowMissing.or envAllow).map .bool)

def completed (env : Environment) (c : Choices) (entries : List (Scalar × Value)) :
    List (Scalar × Value) :=
  entries
    |> override "output_format" ((c.format.or (env.filled? Environment.format)).map .text)
    |> override "project_root" (some (.text (rootOf env c)))

theorem resolve_eq_preset [Host] : resolve disk env c = preset disk env c >>= fun entries =>
    (ofRecord (.map (completed env c entries))).mapError fun why =>
      .lint (.settings (.refused why)) := by
  simp only [resolve, preset, bind_assoc, pure_bind]
  rfl

end Settings

structure Choices.Alike (c c' : Choices) : Prop where
  project : c.project = c'.project
  strict : c.strict = c'.strict
  allowMissing : c.allowMissing = c'.allowMissing

namespace Settings
variable {disk : Disk} {env env' : Environment} {c c' : Choices} {settings settings' : Settings}

section
variable (alike : env.Alike env') (choices : c.Alike c')
include alike choices

theorem rootOf_alike : rootOf env c = rootOf env' c' := by
  simp only [rootOf, choices.project, alike.filled? Environment.project (by decide)]

theorem preset_alike [Host] : preset disk env c = preset disk env' c' := by
  simp only [preset, rootOf_alike alike choices, choices.strict, choices.allowMissing,
    alike.bool? Environment.strict (by decide),
    alike.bool? Environment.allowMissing (by decide)]

/-- Settings that are resolved alike differ in their formats only. -/
theorem resolve_alike [Host] (made : resolve disk env c = .ok settings)
    (made' : resolve disk env' c' = .ok settings') :
    settings' = { settings with format := settings'.format } := by
  rw [resolve_eq_preset] at made made'
  rw [← preset_alike alike choices] at made'
  obtain ⟨entries, set, made⟩ := bind_eq_ok_iff.mp made
  obtain ⟨entries', set', made'⟩ := bind_eq_ok_iff.mp made'
  obtain rfl := Except.ok.inj (set.symm.trans set')
  obtain ⟨root, strict, allow, -⟩ := ofRecord_eq_ok_iff.mp (mapError_eq_ok_iff.mp made)
  obtain ⟨root', strict', allow', -⟩ := ofRecord_eq_ok_iff.mp (mapError_eq_ok_iff.mp made')
  have other {name : String} (isRoot : Text.ofString name ≠ Text.ofString "project_root")
      (isFormat : Text.ofString name ≠ Text.ofString "output_format") :
      Value.find? (.text name) (completed env' c' entries)
        = Value.find? (.text name) (completed env c entries) := by
    simp only [completed, find?_override_of_ne isRoot, find?_override_of_ne isFormat]
  have roots : Value.find? (.text (Text.ofString "project_root")) (completed env' c' entries)
      = Value.find? (.text (Text.ofString "project_root")) (completed env c entries) := by
    simp only [completed, find?_override_self, rootOf_alike alike choices]
    rfl
  rw [roots] at root'
  rw [other (by decide) (by decide)] at strict' allow'
  cases settings
  cases settings'
  cases root.unique root'
  cases strict.unique strict'
  cases allow.unique allow'
  rfl

end

end Settings

theorem Disk.writeCrashLog_alike [Host] {a b : Environment} (alike : a.Alike b) (stamp : Text)
    (m : Mishap) (d : Disk) : d.writeCrashLog a stamp m = d.writeCrashLog b stamp m := by
  simp only [writeCrashLog, ensureLogs, ensureDataDirectory, alike.dataDirectory]

namespace Cli
variable {disk : Disk} {surroundings surroundings' : Surroundings} {stamp : Text}
  {args args' : List Text} {line line' : Line} {s : Session} {p p' : Presentation}

theorem code_ne_crashCode (a : Answer) (strict : Bool) : a.code strict ≠ crashCode := by
  cases a with
  | routes ops => exact Int.zero_ne_one
  | report r =>
    rw [Answer.code]
    split <;> decide

theorem leave_code {message : Text} {code : Int} (installed : s.presentation = some p) :
    (leave disk message code s).code = .ok code := by
  rw [leave, Act.run_remark installed]

/-- Without a presentation, and where none can be made, there are no last words. -/
theorem leave_code_of_refused {message : Text} {code : Int} {fault : Numeral.Fault}
    (silent : s.presentation = none) (refused : s.surroundings.columns = .error fault) :
    (leave disk message code s).code = .error (.number fault) := by
  have failed : (Act.remark .error message).run s = (.error (.mishap (.number fault)), s) := by
    simp only [Act.remark, Act.say]
    refine Act.run_bind_error ?_
    rw [Act.current, Act.run_bind_ok Act.run_get]
    simp only [silent, Presentation.standard, Presentation.make, refused]
    rfl
  rw [leave, failed]

variable [Host]

/-- How the program ends of something that is not foreseen: with its last words, unless the log of
it cannot be written. -/
def endedBy (last : Except Mishap Int) (disk : Disk) (env : Environment) (stamp : Text)
    (m : Mishap) : Except Mishap Int :=
  match (disk.writeCrashLog env stamp m).2 with
  | .ok _ => last
  | .error fault => .error (.file fault)

def crashed (disk : Disk) (env : Environment) (stamp : Text) (m : Mishap) : Except Mishap Int :=
  endedBy (.ok crashCode) disk env stamp m

theorem status_of_crashed {o : Outcome} {env : Environment} {m : Mishap}
    (ended : o.code = crashed disk env stamp m) : o.status = crashCode := by
  rw [Outcome.status, ended, crashed, endedBy]
  cases (disk.writeCrashLog env stamp m).2 <;> rfl

theorem conclude_mishap {m : Mishap} {last : Except Mishap Int}
    (words : ∀ disk message, (leave disk message crashCode s).code = last) :
    (conclude disk stamp (.failure (.mishap m)) s).code
      = endedBy last disk s.surroundings.environment stamp m := by
  simp only [conclude, endedBy]
  rcases disk.writeCrashLog s.surroundings.environment stamp m with ⟨after, fault | file⟩
  · rfl
  · exact words _ _

theorem run_code_of_mishap {m : Mishap}
    (ran : (runArguments disk args).run (.start surroundings) = (.error (.mishap m), s))
    (installed : s.presentation = some p) (place : s.surroundings = surroundings) :
    (run disk surroundings stamp args).code = crashed disk surroundings.environment stamp m := by
  simp only [run, ran]
  rw [conclude_mishap fun _ _ => leave_code installed, place, crashed]

end Cli

namespace Line
variable {disk : Disk} {surroundings surroundings' : Surroundings} {line line' : Line}
  {p p' : Presentation} {strict : Bool} {a : Answer}

structure Alike (line line' : Line) : Prop where
  noColor : line.root.noColor = line'.root.noColor
  quiet : line.root.quiet = line'.root.quiet
  verbose : line.root.verbose = line'.root.verbose
  command : line.command = line'.command
  own : line.own = line'.own

theorem Alike.choices (alike : line.Alike line') : line.choices.Alike line'.choices := by
  constructor <;> simp [Line.choices, CommandChoices.choices, alike.own]

/-- Whether the settings of a command line are accepted, and so its format is settled. -/
def IsSettled [Host] (disk : Disk) (surroundings : Surroundings) (line : Line) : Prop :=
  ∃ settings, Settings.resolve disk surroundings.environment line.choices = .ok settings

/-- A command line comes to an answer, which it tells in a presentation. -/
inductive Reaches [Host] (disk : Disk) (surroundings : Surroundings) (line : Line) :
    Presentation → Bool → Answer → Prop
  | intro {first : Presentation} {settings : Settings} {a : Answer}
    (made : line.presentation surroundings = .ok first)
    (settled : Settings.resolve disk surroundings.environment line.choices = .ok settings)
    (found : Answer.find disk settings line.command = .ok a) :
    Reaches disk surroundings line (first.inFormat settings.format) settings.strict a

theorem presentation_alike (alike : line.Alike line') (place : surroundings.Alike surroundings')
    (made : line.presentation surroundings = .ok p) :
    ∃ rendering, line'.presentation surroundings' = .ok { p with rendering } := by
  obtain ⟨columns, sized, built⟩ := bind_eq_ok_iff.mp made
  cases built
  refine ⟨Presentation.settle surroundings'.isTerminal
    (line'.root.noColor || surroundings'.noColor) line'.format, ?_⟩
  simp [presentation, Presentation.make, ← place.columns, sized, ← place.noColor, ← place.palette?,
    alike.noColor, alike.quiet, alike.verbose, bind, Except.bind, pure, Except.pure]

/-- Alike command lines come to the same answers, in presentations that differ in the rendering. -/
theorem Reaches.alike [Host] (reaches : line.Reaches disk surroundings p strict a)
    (alike : line.Alike line') (place : surroundings.Alike surroundings')
    (settled' : line'.IsSettled disk surroundings') :
    ∃ rendering, line'.Reaches disk surroundings' { p with rendering } strict a := by
  obtain ⟨made, settled, found⟩ := reaches
  rename_i first settings
  obtain ⟨settings', settled'⟩ := settled'
  have same := Settings.resolve_alike place alike.choices settled settled'
  obtain ⟨rendering, made'⟩ := presentation_alike alike place made
  have found' : Answer.find disk settings' line'.command = .ok a := by
    rw [← found, same, ← alike.command]
    cases line.command <;> rfl
  have reached := Reaches.intro made' settled' found'
  rw [same] at reached
  exact ⟨_, reached⟩

end Line

namespace Cli

section
variable [Host] {disk : Disk} {surroundings surroundings' : Surroundings} {stamp : Text}
  {args args' : List Text} {line line' : Line} {p p' : Presentation} {strict : Bool} {a : Answer}

theorem run_of_reaches (read : Line.ofArguments? args = some line)
    (reaches : line.Reaches disk surroundings p strict a) :
    ∃ s, s.Ready surroundings p
      ∧ (runArguments disk args).run (.start surroundings) = (tell strict a).run s := by
  obtain ⟨made, settled, found⟩ := reaches
  rename_i first settings
  have ran := run_line disk read made
  rw [settled] at ran
  obtain ⟨s, ready, ran⟩ := ran
  obtain ⟨s', ready', acted⟩ := run_act disk settings ready line.command
  rw [found] at acted
  exact ⟨s', ready', ran.trans acted⟩

/-- An answer that can be told is told, with the exit code that goes with it. Otherwise the program
crashes of it. -/
theorem run_code_of_reaches (stamp : Text) (read : Line.ofArguments? args = some line)
    (reaches : line.Reaches disk surroundings p strict a) :
    (a.HasForm p strict → (run disk surroundings stamp args).code = .ok (a.code strict))
      ∧ (¬ a.HasForm p strict → ∃ m, (run disk surroundings stamp args).code
        = crashed disk surroundings.environment stamp m) := by
  obtain ⟨s, ready, ran⟩ := run_of_reaches read reaches
  rw [← Answer.canBeTold_iff]
  refine ⟨fun able => ?_, fun unable => ?_⟩
  · simp only [run, ran.trans (run_tell ready.installed ready.unblocked able)]
    rfl
  · obtain ⟨m, s', failed, same⟩ := run_tell_error ready.installed ready.unblocked unable
    exact ⟨m, run_code_of_mishap (ran.trans failed) (same.presentation.trans ready.installed)
      (same.surroundings.trans ready.place)⟩

theorem run_status_of_reaches (stamp : Text) (read : Line.ofArguments? args = some line)
    (reaches : line.Reaches disk surroundings p strict a) :
    (a.HasForm p strict → (run disk surroundings stamp args).status = a.code strict)
      ∧ (¬ a.HasForm p strict → (run disk surroundings stamp args).status = crashCode) := by
  obtain ⟨able, unable⟩ := run_code_of_reaches stamp read reaches
  refine ⟨fun good => ?_, fun bad => ?_⟩
  · rw [Outcome.status, able good]
  · obtain ⟨m, ended⟩ := unable bad
    exact status_of_crashed ended

def failureCode (disk : Disk) (env : Environment) (stamp : Text) : Failure → Except Mishap Int
  | .lint e => .ok e.exitCode
  | .mishap m => crashed disk env stamp m

theorem run_code_of_failure (read : Line.ofArguments? args = some line)
    (made : line.presentation surroundings = .ok p) {f : Failure}
    (failed : (Settings.resolve disk surroundings.environment line.choices >>= fun settings =>
      Answer.find disk settings line.command) = .error f) :
    (run disk surroundings stamp args).code
      = failureCode disk surroundings.environment stamp f := by
  have ran := run_line disk read made
  cases settled : Settings.resolve disk surroundings.environment line.choices with
  | error e =>
    rw [settled] at ran failed
    obtain rfl : e = f := Except.error.inj failed
    cases e with
    | lint e =>
      obtain ⟨s, -, ran⟩ := ran
      simp only [run, ran]
      rfl
    | mishap m =>
      obtain ⟨s, ready, ran⟩ := ran
      exact run_code_of_mishap ran ready.installed ready.place
  | ok settings =>
    rw [settled] at ran failed
    replace failed : Answer.find disk settings line.command = .error f := failed
    obtain ⟨s, ready, ran⟩ := ran
    obtain ⟨s', ready', acted⟩ := run_act disk settings ready line.command
    rw [acted, failed] at ran
    cases f with
    | lint e =>
      simp only [run, ran]
      rfl
    | mishap m => exact run_code_of_mishap ran ready'.installed ready'.place

theorem run_code_of_unpresented (read : Line.ofArguments? args = some line)
    {fault : Numeral.Fault} (refused : surroundings.columns = .error fault) :
    (run disk surroundings stamp args).code
      = endedBy (.error (.number fault)) disk surroundings.environment stamp (.number fault) := by
  have unmade : line.presentation surroundings = .error fault := by
    simp [Line.presentation, Presentation.make, refused, bind, Except.bind]
  simp only [run, run_unpresented read unmade]
  exact conclude_mishap fun _ _ => leave_code_of_refused rfl refused

section
variable (alike : line.Alike line') (place : surroundings.Alike surroundings')
include place

theorem endedBy_alike (last : Except Mishap Int) (stamp : Text) (m : Mishap) :
    endedBy last disk surroundings.environment stamp m
      = endedBy last disk surroundings'.environment stamp m := by
  rw [endedBy, endedBy, Disk.writeCrashLog_alike place]

theorem failureCode_alike (stamp : Text) (f : Failure) :
    failureCode disk surroundings.environment stamp f
      = failureCode disk surroundings'.environment stamp f := by
  cases f with
  | lint e => rfl
  | mishap m => exact endedBy_alike place _ stamp m

include alike

theorem failureCode_of_unsettled {f f' : Failure}
    (failed : Settings.resolve disk surroundings.environment line.choices = .error f)
    (failed' : Settings.resolve disk surroundings'.environment line'.choices = .error f') :
    failureCode disk surroundings.environment stamp f
      = failureCode disk surroundings'.environment stamp f' := by
  rw [Settings.resolve_eq_preset] at failed failed'
  rw [← Settings.preset_alike place alike.choices] at failed'
  cases preset : Settings.preset disk surroundings.environment line.choices with
  | error e =>
    rw [preset] at failed failed'
    cases failed
    cases failed'
    exact failureCode_alike place stamp f
  | ok entries =>
    rw [preset] at failed failed'
    obtain ⟨why, -, rfl⟩ := mapError_eq_error_iff.mp failed
    obtain ⟨why', -, rfl⟩ := mapError_eq_error_iff.mp failed'
    rfl

/-- Alike command lines that come to no answer end with the same exit code. -/
theorem run_code_of_unreached (stamp : Text) (read : Line.ofArguments? args = some line)
    (read' : Line.ofArguments? args' = some line')
    (both : line.IsSettled disk surroundings ↔ line'.IsSettled disk surroundings')
    (unreached : ¬ ∃ p strict a, line.Reaches disk surroundings p strict a) :
    (run disk surroundings stamp args).code = (run disk surroundings' stamp args').code := by
  cases made : line.presentation surroundings with
  | error fault =>
    have refused : surroundings.columns = .error fault := by
      simp only [Line.presentation, Presentation.make] at made
      cases columns : surroundings.columns with
      | error e =>
        rw [columns] at made
        exact congrArg _ (Except.error.inj made)
      | ok n =>
        rw [columns] at made
        cases made
    rw [run_code_of_unpresented read refused,
      run_code_of_unpresented read' (place.columns ▸ refused), endedBy_alike place]
  | ok p =>
    obtain ⟨rendering, made'⟩ := Line.presentation_alike alike place made
    cases settled : Settings.resolve disk surroundings.environment line.choices with
    | error f =>
      cases settled' : Settings.resolve disk surroundings'.environment line'.choices with
      | ok settings' =>
        obtain ⟨settings, impossible⟩ := both.mpr ⟨settings', settled'⟩
        cases settled.symm.trans impossible
      | error f' =>
        rw [run_code_of_failure read made (congrArg (· >>= _) settled),
          run_code_of_failure read' made' (congrArg (· >>= _) settled'),
          failureCode_of_unsettled alike place settled settled']
    | ok settings =>
      obtain ⟨settings', settled'⟩ := both.mp ⟨settings, settled⟩
      have same := Settings.resolve_alike place alike.choices settled settled'
      have found' : Answer.find disk settings' line'.command
          = Answer.find disk settings line.command := by
        rw [same, ← alike.command]
        cases line.command <;> rfl
      cases found : Answer.find disk settings line.command with
      | ok a => exact absurd ⟨_, _, _, Line.Reaches.intro made settled found⟩ unreached
      | error f =>
        rw [run_code_of_failure read made ((congrArg (· >>= _) settled).trans found),
          run_code_of_failure read' made' ((congrArg (· >>= _) settled').trans (found'.trans found)),
          failureCode_alike place]

end

theorem isSettled_of_toOption
    (some : (Settings.resolve disk surroundings.environment line.choices).toOption.isSome = true) :
    line.IsSettled disk surroundings := by
  obtain ⟨settings, settled⟩ := Option.isSome_iff_exists.mp some
  exact ⟨settings, toOption_eq_some_iff.mp settled⟩

end

def richSurroundings : Surroundings := ⟨false, [(Environment.format, "rich")]⟩

def checkLine : Line := ⟨.none, .auto, .check, .none⟩

def jsonCheckLine : Line := ⟨⟨true, false, false, false, false, []⟩, .json, .check, .none⟩

theorem checkLine_alike : checkLine.Alike jsonCheckLine := ⟨rfl, rfl, rfl, rfl, rfl⟩

theorem ofArguments?_checkLine : Line.ofArguments? ["check"] = some checkLine := by decide +kernel

theorem ofArguments?_jsonCheckLine : Line.ofArguments? ["--json", "check"] = some jsonCheckLine := by
  decide +kernel

/-- A project with a write that anyone may make, below a path with a closing tag in it. -/
def openTagDisk : Disk := .withFile "openapi.json"
  "\x7b\"openapi\": \"3.0.0\", \"info\": \x7b\x7d, \"paths\": \x7b\"/a[/b]\": \x7b\"post\": \x7b\"requestBody\": 1\x7d\x7d\x7d\x7d"

end Cli
end ExposureLint
