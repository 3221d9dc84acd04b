import Mathlib
import ExposureLint.Cli.Run
import ExposureLint.Proofs.Session
import ExposureLint.Proofs.Shown

/-!
How a command runs. A command line is read, a presentation is made, the settings are resolved, the
command finds its answer, and the answer is told. Up to there nothing is put on the data stream.
-/
namespace ExposureLint

/-- In a session that is ready a presentation is installed, and there is nothing on the data stream
yet. -/
structure Session.Ready (surroundings : Surroundings) (p : Presentation) (s : Session) : Prop where
  place : s.surroundings = surroundings
  installed : s.presentation = some p
  unblocked : s.blocked = none
  silent : s.streams.data = []

namespace Session.Ready
variable {surroundings : Surroundings} {p : Presentation} {s : Session}

theorem wrote (ready : s.Ready surroundings p) (t : Text) :
    (s.wrote ⟨[], t⟩).Ready surroundings p where
  place := ready.place
  installed := ready.installed
  unblocked := ready.unblocked
  silent := by simp [ready.silent]

end Session.Ready

/-- A session with a presentation installed, which leaves it alone if it is the one that it has. -/
def Session.showing (p : Presentation) (s : Session) : Session :=
  if s.presentation = some p then s else { s with presentation := some p, blocked := none }

namespace Session
variable {s : Session} {p : Presentation}

theorem showing_presentation : (s.showing p).presentation = some p := by
  unfold showing
  split
  · rename_i same
    exact same
  · rfl

theorem showing_surroundings : (s.showing p).surroundings = s.surroundings := by
  unfold showing
  split <;> rfl

theorem showing_of_installed (installed : s.presentation = some p) : s.showing p = s :=
  if_pos installed

theorem Ready.showing {surroundings : Surroundings} {q : Presentation}
    (ready : s.Ready surroundings q) : (s.showing p).Ready surroundings p where
  place := showing_surroundings.trans ready.place
  installed := showing_presentation
  unblocked := by
    unfold Session.showing
    split
    · exact ready.unblocked
    · rfl
  silent := by
    unfold Session.showing
    split <;> exact ready.silent

end Session

namespace Presentation
variable {surroundings : Surroundings} {p : Presentation} {format format' : OutputFormat}

/-- A presentation with the rendering that a format asks for; `auto` leaves it as it is. -/
def inFormat (format : OutputFormat) (p : Presentation) : Presentation :=
  { p with rendering := (format.rendering?).getD p.rendering }

theorem make_inFormat {noColor quiet verbose : Bool}
    (made : make surroundings format noColor quiet verbose = .ok p)
    {rendering : Rendering} (asked : format'.rendering? = some rendering) :
    make surroundings format' noColor quiet verbose = .ok (p.inFormat format') := by
  obtain ⟨columns, sized, built⟩ := bind_eq_ok_iff.mp made
  cases built
  simp [make, sized, inFormat, settle, asked, bind, Except.bind, pure, Except.pure]

theorem make_own {noColor quiet verbose : Bool}
    (made : make surroundings format noColor quiet verbose = .ok p) :
    make surroundings format p.noColor p.quiet p.verbose = .ok p := by
  obtain ⟨columns, sized, built⟩ := bind_eq_ok_iff.mp made
  cases built
  simp [make, sized, bind, Except.bind, pure, Except.pure]

end Presentation

namespace Act
variable {α : Type} {s s' : Session} {p : Presentation} {surroundings : Surroundings}

theorem run_present {format : OutputFormat} {noColor quiet verbose : Bool}
    (made : Presentation.make s.surroundings format noColor quiet verbose = .ok p) :
    (present format noColor quiet verbose).run s
      = (.ok p, { s with presentation := some p, blocked := none }) := by
  rw [present, run_bind_ok run_get, ofNumber, made]
  rfl

theorem run_present_error {format : OutputFormat} {noColor quiet verbose : Bool}
    {fault : Numeral.Fault}
    (refused : Presentation.make s.surroundings format noColor quiet verbose = .error fault) :
    (present format noColor quiet verbose).run s = (.error (.mishap (.number fault)), s) := by
  rw [present, run_bind_ok run_get, ofNumber, refused]
  rfl

theorem run_configureLog (installed : s.presentation = some p) :
    configureLog.run s = (.ok (), { s with log := s.log.configure p }) := by
  rw [configureLog, run_bind_ok (run_current installed)]
  rfl

/-- To switch to a format changes the rendering of the presentation, and nothing else. -/
theorem run_applyFormat_eq {format : OutputFormat} {noColor quiet verbose : Bool}
    (installed : s.presentation = some p)
    (made : Presentation.make s.surroundings format noColor quiet verbose = .ok p)
    (format' : OutputFormat) :
    (applyFormat format').run s = (.ok (p.inFormat format'), s.showing (p.inFormat format')) := by
  rw [applyFormat, run_bind_ok (run_current installed)]
  cases asked : format'.rendering? with
  | none =>
    have same : p.inFormat format' = p := by simp [Presentation.inFormat, asked]
    rw [same, Session.showing_of_installed installed]
    rfl
  | some rendering =>
    by_cases unchanged : rendering = p.rendering
    · have same : p.inFormat format' = p := by simp [Presentation.inFormat, asked, unchanged]
      rw [same, Session.showing_of_installed installed]
      simp only [unchanged, beq_self_eq_true, if_true]
      rfl
    · have other : ¬ s.presentation = some (p.inFormat format') := by
        rw [installed]
        intro same
        have renderings := congrArg Presentation.rendering (Option.some.inj same)
        simp only [Presentation.inFormat, asked, Option.getD_some] at renderings
        exact unchanged renderings.symm
      have changed : (rendering == p.rendering) = false := beq_eq_false_iff_ne.mpr unchanged
      simp only [changed, Bool.false_eq_true, if_false]
      have again := Presentation.make_inFormat (Presentation.make_own made) asked
      rw [run_present again, Session.showing, if_neg other]

theorem run_applyFormat {first : OutputFormat} {noColor quiet verbose : Bool}
    (ready : s.Ready surroundings p)
    (made : Presentation.make surroundings first noColor quiet verbose = .ok p)
    (format : OutputFormat) :
    ∃ s', (applyFormat format).run s = (.ok (p.inFormat format), s')
      ∧ s'.Ready surroundings (p.inFormat format) :=
  ⟨_, run_applyFormat_eq ready.installed (ready.place ▸ made) format, ready.showing⟩

end Act

namespace Cli
variable {α : Type} {s s' : Session} {p : Presentation} {surroundings : Surroundings}
  {disk : Disk} {settings : Settings}

theorem run_attempt (a : Act α) : (attempt a).run s = (.ok (a.run s).1, (a.run s).2) := rfl

theorem run_orTell [Host] {a : Act α} {next : α → Act Int} {x : α} (ran : a.run s = (.ok x, s')) :
    (orTell a next).run s = (next x).run s' := by
  rw [orTell, Act.run_bind_ok (run_attempt a), ran]

theorem run_orTell_lint [Host] {a : Act α} {next : α → Act Int} {e : LintError}
    (ran : a.run s = (.error (.lint e), s')) (installed : s'.presentation = some p) :
    (orTell a next).run s
      = (.ok e.exitCode, s'.wrote (.ofRemarks (Remark.error.text p e.message))) := by
  rw [orTell, Act.run_bind_ok (run_attempt a), ran]
  simp only
  rw [Act.run_bind_ok (Act.run_remark installed _ _)]
  rfl

theorem run_orTell_mishap [Host] {a : Act α} {next : α → Act Int} {m : Mishap}
    (ran : a.run s = (.error (.mishap m), s')) :
    (orTell a next).run s = (.error (.mishap m), s') := by
  rw [orTell, Act.run_bind_ok (run_attempt a), ran]
  rfl

/-- A record of settings has no integers and no containers inside, so its text always exists. -/
theorem settings_display (settings : Settings) :
    ∃ t, settings.toRecord.displayWithin 1 = .ok t := by
  have writable : ∀ s ∈ settings.toRecord.scalars, s.IsWritable := by
    simp [Settings.toRecord, Value.scalars, Value.scalarsOfEntries, Value.text, Value.bool,
      Scalar.IsWritable]
  have flat : settings.toRecord.depth = 1 := by
    simp [Settings.toRecord, Value.depth, Value.depthWithin, Value.depthOfEntries, Value.text,
      Value.bool]
  exact (settings.toRecord.exists_displayWithin_iff 1).mpr ⟨Value.shown_all writable, flat.le⟩

theorem run_settled (settings : Settings) {first : OutputFormat} {noColor quiet verbose : Bool}
    (ready : s.Ready surroundings p)
    (made : Presentation.make surroundings first noColor quiet verbose = .ok p) :
    ∃ s', (settled settings).run s = (.ok (), s')
      ∧ s'.Ready surroundings (p.inFormat settings.format) := by
  obtain ⟨s₁, applied, ready₁⟩ := Act.run_applyFormat ready made settings.format
  obtain ⟨t, shown⟩ := settings_display settings
  have ran : (settled settings).run s = (.ok (), s₁.wrote (.ofRemarks
      (Remark.debug.text (p.inFormat settings.format) ("Resolved config: " ++ t)))) := by
    rw [settled, Act.run_bind_ok applied, shown]
    exact Act.run_remark ready₁.installed _ _
  exact ⟨_, ran, ready₁.wrote _⟩

end Cli

/-- What a command has to tell: a report, or the operations of a project. -/
inductive Answer
  | report (r : Report)
  | routes (ops : List Operation)

namespace Answer

def find [Host] (disk : Disk) (settings : Settings) : Command → Except Failure Answer
  | .check => report <$> (Report.ofProject disk settings.root settings.allowMissing).outcome.1
  | .routes => do routes <$> Spec.normalize (← (Spec.load disk settings.root).outcome.1)

def emissions (rendering : Rendering) (strict : Bool) : Answer → List Emission
  | .report r => r.emissions rendering strict
  | .routes ops =>
    if ops.isEmpty then [.remark .info "No operations defined in this spec."]
    else [.table (Operation.table ops)]

def code (strict : Bool) : Answer → Int
  | .report r => if r.isBlocking strict then Cli.unsafeCode else 0
  | .routes _ => 0

def CanBeTold (p : Presentation) (strict : Bool) (a : Answer) : Prop :=
  ∀ e ∈ a.emissions p.rendering strict, p.CanTell e

end Answer

def Command.act [Host] (disk : Disk) (settings : Settings) : Command → Act Int
  | .check => Cli.check disk settings
  | .routes => Cli.routes disk settings

namespace Cli
variable {s s' : Session} {p : Presentation} {surroundings : Surroundings} {disk : Disk}
  {settings : Settings}

def tell (strict : Bool) (a : Answer) : Act Int := do
  let p ← Act.current
  Act.sayAll (a.emissions p.rendering strict)
  return a.code strict

section
variable (installed : s.presentation = some p) (unblocked : s.blocked = none)
include installed unblocked

theorem run_tell {strict : Bool} {a : Answer} (able : a.CanBeTold p strict) :
    (tell strict a).run s
      = (.ok (a.code strict), s.wrote (.all ((a.emissions p.rendering strict).map p.streamsOf))) := by
  rw [tell, Act.run_bind_ok (Act.run_current installed),
    Act.run_bind_ok (Act.run_sayAll installed (fun _ => unblocked) able)]
  rfl

theorem run_tell_error {strict : Bool} {a : Answer} (unable : ¬ a.CanBeTold p strict) :
    ∃ m s', (tell strict a).run s = (.error (.mishap m), s') ∧ s.Continues s' := by
  obtain ⟨m, s', failed, same⟩ := Act.run_sayAll_error installed (fun _ => unblocked) unable
  refine ⟨m, s', ?_, same⟩
  rw [tell, Act.run_bind_ok (Act.run_current installed), Act.run_bind_error failed]

end

theorem sayAll_single (e : Emission) : Act.sayAll [e] = Act.say e := by
  rw [Act.sayAll, List.forM]
  exact bind_pure_unit

/-- A command finds its answer and tells it. What it cannot find for a foreseen reason gives the
exit code of that; anything else ends it. -/
theorem run_act [Host] (disk : Disk) (settings : Settings) (ready : s.Ready surroundings p)
    (command : Command) :
    ∃ s', s'.Ready surroundings p ∧ (command.act disk settings).run s =
      match Answer.find disk settings command with
      | .ok a => (tell settings.strict a).run s'
      | .error (.lint e) => (.ok e.exitCode, s')
      | .error (.mishap m) => (.error (.mishap m), s') := by
  cases command with
  | check =>
    obtain ⟨t, taken⟩ := Act.run_take (s := s)
      (Report.ofProject disk settings.root settings.allowMissing)
    have ready' := ready.wrote t
    simp only [Answer.find, Command.act, Cli.check]
    cases found : (Report.ofProject disk settings.root settings.allowMissing).outcome.1 with
    | ok r =>
      rw [found] at taken
      exact ⟨_, ready', run_orTell taken⟩
    | error f =>
      rw [found] at taken
      cases f with
      | lint e => exact ⟨_, ready'.wrote _, run_orTell_lint taken ready'.installed⟩
      | mishap m => exact ⟨_, ready', run_orTell_mishap taken⟩
  | routes =>
    obtain ⟨t, taken⟩ := Act.run_take (s := s) (Spec.load disk settings.root)
    have ready' := ready.wrote t
    simp only [Answer.find, Command.act, Cli.routes]
    cases found : (Spec.load disk settings.root).outcome.1 with
    | error f =>
      rw [found] at taken
      cases f with
      | lint e => exact ⟨_, ready'.wrote _, run_orTell_lint taken ready'.installed⟩
      | mishap m => exact ⟨_, ready', run_orTell_mishap taken⟩
    | ok document =>
      rw [found] at taken
      refine ⟨_, ready', (run_orTell taken).trans ?_⟩
      cases listed : Spec.normalize document with
      | error f =>
        obtain ⟨o, -, rfl⟩ := mapError_eq_error_iff.mp listed
        rw [Act.run_bind_error (Act.run_ofExcept _)]
        simp only [bind, Except.bind, listed]
        cases o <;> rfl
      | ok ops =>
        rw [Act.run_bind_ok (Act.run_ofExcept _)]
        simp only [bind, Except.bind, listed]
        -- a listing makes one emission, by itself and not from a list of them
        show _ = (tell settings.strict (.routes ops)).run _
        rw [tell, Act.run_bind_ok (Act.run_current ready'.installed)]
        cases empty : ops.isEmpty with
        | true =>
          simp only [Answer.emissions, empty, if_true, sayAll_single]
          rfl
        | false =>
          simp only [Answer.emissions, empty, Bool.false_eq_true, if_false, sayAll_single]
          rfl

end Cli

/-- A command line that leads to a command: the choices for all commands with the format that they
ask for, and the choices for the command. -/
structure Line where
  root : RootChoices
  format : OutputFormat
  command : Command
  own : CommandChoices
deriving DecidableEq

namespace Line

def ofArguments? (args : List Text) : Option Line :=
  match RootChoices.read args with
  | .error _ => none
  | .ok (root, command, own) =>
    match root.format, CommandChoices.read command own with
    | .ok format, .ok choices => some ⟨root, format, command, choices⟩
    | _, _ => none

def choices (l : Line) : Choices := l.own.choices l.format

/-- The presentation that is made before the settings are known. -/
def presentation (surroundings : Surroundings) (l : Line) : Except Numeral.Fault Presentation :=
  Presentation.make surroundings l.format l.root.noColor l.root.quiet l.root.verbose

end Line

namespace Cli
variable [Host] {s s' : Session} {p : Presentation} {surroundings : Surroundings} {disk : Disk}
  {args : List Text} {line : Line}

theorem runArguments_eq (read : Line.ofArguments? args = some line) :
    (runArguments disk args).run (.start surroundings) = (do
      let _ ← Act.present line.format line.root.noColor line.root.quiet line.root.verbose
      Act.configureLog
      perform disk line.format line.command line.own : Act Int).run (.start surroundings) := by
  unfold Line.ofArguments? at read
  split at read
  · cases read
  · rename_i root command own leads
    split at read
    · rename_i format choices asked chosen
      cases read
      rw [runArguments, leads]
      simp only [runCommand, asked, chosen]
      rfl
    · cases read

theorem run_unpresented {fault : Numeral.Fault} (read : Line.ofArguments? args = some line)
    (refused : line.presentation surroundings = .error fault) :
    (runArguments disk args).run (.start surroundings)
      = (.error (.mishap (.number fault)), .start surroundings) := by
  rw [runArguments_eq read, Act.run_bind_error
    (Act.run_present_error (s := .start surroundings) refused)]

theorem run_presented (disk : Disk) (read : Line.ofArguments? args = some line)
    (made : line.presentation surroundings = .ok p) :
    ∃ s, s.Ready surroundings p ∧ (runArguments disk args).run (.start surroundings)
      = (perform disk line.format line.command line.own).run s := by
  refine ⟨⟨surroundings, some p, none, Log.initial.configure p, .empty⟩, ⟨rfl, rfl, rfl, rfl⟩, ?_⟩
  rw [runArguments_eq read, Act.run_bind_ok (Act.run_present (s := .start surroundings) made),
    Act.run_bind_ok (Act.run_configureLog rfl)]
  rfl

/-- How a command line runs whose presentation is made: the settings are resolved, and if they are,
the command acts in the presentation that they ask for. -/
theorem run_line (disk : Disk) (read : Line.ofArguments? args = some line)
    (made : line.presentation surroundings = .ok p) :
    match Settings.resolve disk surroundings.environment line.choices with
    | .ok settings => ∃ s, s.Ready surroundings (p.inFormat settings.format)
        ∧ (runArguments disk args).run (.start surroundings)
          = (line.command.act disk settings).run s
    | .error (.lint e) => ∃ s, s.Ready surroundings p
        ∧ (runArguments disk args).run (.start surroundings) = (.ok e.exitCode, s)
    | .error (.mishap m) => ∃ s, s.Ready surroundings p
        ∧ (runArguments disk args).run (.start surroundings) = (.error (.mishap m), s) := by
  obtain ⟨s, ready, ran⟩ := run_presented disk read made
  have performed : (perform disk line.format line.command line.own).run s
      = (orTell (Act.ofExcept (Settings.resolve disk surroundings.environment line.choices))
          fun settings => do
            settled settings
            line.command.act disk settings).run s := by
    rw [perform, Act.run_bind_ok Act.run_get, ready.place]
    rfl
  rw [ran, performed]
  split
  · rename_i settings resolved
    obtain ⟨s', used, ready'⟩ := run_settled settings ready made
    refine ⟨s', ready', ?_⟩
    rw [resolved, run_orTell (Act.run_ofExcept _), Act.run_bind_ok used]
  · rename_i e refused
    rw [refused]
    exact ⟨_, ready.wrote _, run_orTell_lint (Act.run_ofExcept _) ready.installed⟩
  · rename_i m failed
    rw [failed]
    exact ⟨_, ready, run_orTell_mishap (Act.run_ofExcept _)⟩

end Cli
end ExposureLint
