import Mathlib
import ExposureLint.Proofs.Precedence
import ExposureLint.Proofs.Rendering

/-!
The format in which a run shows its answer. It is asked for by the flags, by a variable or by the
section of the project, in this order, and is open otherwise. Nothing else about the presentation
depends on where the format comes from.
-/
namespace ExposureLint

open Settings

/-- The rendering that a name of a format stands for, where `coloured` tells whether an open format
is rich. -/
inductive Rendering.Named (coloured : Bool) : Text → Rendering → Prop
  | json : Named coloured "json" .json
  | plain : Named coloured "plain" .plain
  | rich : Named coloured "rich" .rich
  | auto : Named coloured "auto" (if coloured then .rich else .plain)

theorem OutputFormat.lower_name (f : OutputFormat) : Text.lower f.name = f.name := by
  cases f <;> decide +kernel

theorem OutputFormat.name_injective : Function.Injective name := by
  intro f g same
  exact Option.some.inj ((ofName?_eq_some_iff.mpr same).symm.trans (ofName?_eq_some_iff.mpr rfl))

/-- An open format is settled by the terminal and the colours, and any other one by itself. -/
theorem Presentation.settle_named (isTerminal noColor : Bool) (format : OutputFormat) :
    Rendering.Named (isTerminal && !noColor) format.name (settle isTerminal noColor format) := by
  cases format with
  | auto => exact .auto
  | json => exact .json
  | plain => exact .plain
  | rich => exact .rich

theorem Surroundings.noColor_iff (s : Surroundings) : s.noColor = true ↔
    (∃ t, s.environment.get? "NO_COLOR" = some t)
      ∨ s.environment.get? "TERM" = some (Text.ofString "dumb") := by
  have dumb : s.terminalName = Text.ofString "dumb"
      ↔ s.environment.get? "TERM" = some (Text.ofString "dumb") := by
    unfold terminalName
    cases s.environment.get? "TERM" with
    | none => exact iff_of_false (by decide) nofun
    | some t => exact Option.some_inj.symm
  rw [noColor, Bool.or_eq_true, beq_iff_eq, dumb, Option.isSome_iff_exists]

namespace Line
variable {disk : Disk} {surroundings : Surroundings} {env : Environment} {line : Line}
  {fields : List (Scalar × Value)} {args : List Text} {first p : Presentation}
  {settings : Settings} {strict : Bool} {a : Answer}

structure IsOpen (line : Line) : Prop where
  json : line.root.json = false
  plain : line.root.plain = false

/-- The name of the format that is asked for: by a flag, by the variable unless it is empty, or by
the section; an open one if none of them does. -/
inductive Asks (env : Environment) (fields : List (Scalar × Value)) (line : Line) : Text → Prop
  | json (flag : line.root.json = true) : Asks env fields line "json"
  | plain (flag : line.root.plain = true) : Asks env fields line "plain"
  | set {t : Text} (flagless : line.IsOpen) (var : env.get? Environment.format = some t)
    (nonempty : t ≠ []) : Asks env fields line (Text.lower t)
  | written {v : Value} {t : Text} (flagless : line.IsOpen)
    (noVar : ∀ t, env.get? Environment.format = some t → t = [])
    (there : Value.find? (.text "output_format") fields = some v)
    (good : Record.readText v = .ok t) : Asks env fields line (Text.lower t)
  | nowhere (flagless : line.IsOpen)
    (noVar : ∀ t, env.get? Environment.format = some t → t = [])
    (missing : Value.find? (.text "output_format") fields = none) : Asks env fields line "auto"

theorem format_of_ofArguments? (read : ofArguments? args = some line) :
    line.root.format = .ok line.format := by
  unfold ofArguments? at read
  split at read
  · cases read
  · split at read
    · rename_i asked _
      cases read
      exact asked
    · cases read

theorem format_cases (asked : line.root.format = .ok line.format) :
    line.root.json = true ∧ line.format = .json ∨ line.root.plain = true ∧ line.format = .plain
      ∨ line.IsOpen ∧ line.format = .auto := by
  unfold RootChoices.format at asked
  split at asked
  · cases asked
  · rename_i json _
    exact .inl ⟨json, (Except.ok.inj asked).symm⟩
  · rename_i _ plain
    exact .inr (.inl ⟨plain, (Except.ok.inj asked).symm⟩)
  · rename_i json plain
    exact .inr (.inr ⟨⟨json, plain⟩, (Except.ok.inj asked).symm⟩)

/-- The settings have the format that is asked for, and they leave a flag as it is. -/
theorem asks_of_settles (asked : line.root.format = .ok line.format)
    (settles : Settles env line.choices fields settings) :
    line.Asks env fields settings.format.name
      ∧ (line.format = .auto ∨ settings.format = line.format) := by
  obtain ⟨t, takes, named⟩ := settles.format
  have flagged {f : OutputFormat} (isFlag : line.format = f) (closed : f ≠ .auto) :
      settings.format = f := by
    have isLine : line.choices.format = some f.name := by
      cases f <;> simp_all [choices, CommandChoices.choices]
    cases takes with
    | given same =>
      rw [isLine] at same
      cases same
      exact OutputFormat.name_injective (named.trans f.lower_name)
    | _ => simp_all
  obtain ⟨flag, isFlag⟩ | ⟨flag, isFlag⟩ | ⟨flagless, isOpen⟩ := format_cases asked
  · rw [flagged isFlag (by decide)]
    exact ⟨.json flag, .inr isFlag.symm⟩
  · rw [flagged isFlag (by decide)]
    exact ⟨.plain flag, .inr isFlag.symm⟩
  · have noLine : line.choices.format = none := by simp [choices, CommandChoices.choices, isOpen]
    refine ⟨?_, .inl isOpen⟩
    rw [named]
    cases takes with
    | given isLine => cases noLine.symm.trans isLine
    | set _ isVar =>
      obtain ⟨var, nonempty⟩ := Environment.filled?_eq_some_iff.mp isVar
      exact .set flagless var nonempty
    | written _ noVar there good =>
      exact .written flagless (Environment.filled?_eq_none_iff.mp noVar) there good
    | missing _ noVar nothing =>
      rw [show Text.lower "auto" = "auto" from OutputFormat.auto.lower_name]
      exact .nowhere flagless (Environment.filled?_eq_none_iff.mp noVar) nothing

/-- The presentation in which a command line tells its answer: the rendering is the one that is
asked for, and the flags are those of the command line and of the surroundings. -/
structure Presents [Host] (disk : Disk) (surroundings : Surroundings) (line : Line)
    (p : Presentation) : Prop where
  rendering : ∃ fields name,
    Section disk (rootOf surroundings.environment line.choices) fields
      ∧ line.Asks surroundings.environment fields name
      ∧ Rendering.Named (surroundings.isTerminal && !p.noColor) name p.rendering
  noColor : p.noColor = true ↔ line.root.noColor = true
    ∨ (∃ t, surroundings.environment.get? "NO_COLOR" = some t)
    ∨ surroundings.environment.get? "TERM" = some (Text.ofString "dumb")
  quiet : p.quiet = line.root.quiet
  verbose : p.verbose = line.root.verbose

/-- The switch to the format of the settings keeps what the first presentation is made of. -/
theorem inFormat_named (made : line.presentation surroundings = .ok first)
    (kept : line.format = .auto ∨ settings.format = line.format) :
    Rendering.Named (surroundings.isTerminal && !first.noColor) settings.format.name
      (first.inFormat settings.format).rendering := by
  obtain ⟨columns, -, built⟩ := bind_eq_ok_iff.mp made
  have rendering : first.rendering
      = Presentation.settle surroundings.isTerminal first.noColor line.format := by
    cases built
    rfl
  have switched : (first.inFormat settings.format).rendering
      = Presentation.settle surroundings.isTerminal first.noColor settings.format := by
    rw [Presentation.inFormat, rendering]
    obtain isOpen | same := kept
    · rw [isOpen]
      rfl
    · rw [same]
      cases line.format <;> rfl
  rw [switched]
  exact Presentation.settle_named _ _ _

theorem presents_of_reaches [Host] (asked : line.root.format = .ok line.format)
    (reaches : line.Reaches disk surroundings p strict a) :
    line.Presents disk surroundings p := by
  obtain ⟨made, settled, -⟩ := reaches
  rename_i first settings
  obtain ⟨fields, loaded, settles⟩ := resolve_eq_ok_iff.mp settled
  obtain ⟨asks, kept⟩ := asks_of_settles asked settles
  have named := inFormat_named made kept
  obtain ⟨columns, -, built⟩ := bind_eq_ok_iff.mp made
  cases built
  constructor
  · exact ⟨fields, _, (section_of_loadSection loaded).1, asks, named⟩
  · rw [← Surroundings.noColor_iff, ← Bool.or_eq_true]
    rfl
  · rfl
  · rfl

end Line

namespace Cli
variable {disk : Disk} {surroundings : Surroundings} {args : List Text} {line : Line}

theorem silent_of_not_reaches [Host] (read : Line.ofArguments? args = some line)
    (lost : ∀ p strict a, ¬ line.Reaches disk surroundings p strict a) :
    ((runArguments disk args).run (.start surroundings)).2.streams.data = [] := by
  cases made : line.presentation surroundings with
  | error fault =>
    rw [run_unpresented read made]
    rfl
  | ok first =>
    have ran := run_line disk read made
    split at ran
    · rename_i settings settled
      obtain ⟨s, ready, ran⟩ := ran
      obtain ⟨s', ready', acted⟩ := run_act disk settings ready line.command
      rw [ran, acted]
      split
      · rename_i a found
        exact absurd (Line.Reaches.intro made settled found) (lost _ _ a)
      · exact ready'.silent
      · exact ready'.silent
    · obtain ⟨s, ready, ran⟩ := ran
      rw [ran]
      exact ready.silent
    · obtain ⟨s, ready, ran⟩ := ran
      rw [ran]
      exact ready.silent

/-- A command line that comes to an answer tells it in the format that is asked for, with the flags
of the command line and of the surroundings. Any other one shows no answer at all. -/
theorem run_presents [Host] (read : Line.ofArguments? args = some line) :
    (∀ p strict a, line.Reaches disk surroundings p strict a →
        line.Presents disk surroundings p
          ∧ ∃ s, s.Ready surroundings p
            ∧ (runArguments disk args).run (.start surroundings) = (tell strict a).run s)
      ∧ ((∀ p strict a, ¬ line.Reaches disk surroundings p strict a) →
        ((runArguments disk args).run (.start surroundings)).2.streams.data = []) := by
  refine ⟨fun p strict a reaches => ⟨?_, ?_⟩, silent_of_not_reaches read⟩
  · exact Line.presents_of_reaches (Line.format_of_ofArguments? read) reaches
  · exact run_of_reaches read reaches

def quietLine : Line := ⟨⟨false, false, true, true, false, []⟩, .auto, .check, .none⟩

/-- A terminal, and a variable that asks for records in upper case. -/
def shoutingSurroundings : Surroundings := ⟨true, [(Environment.format, "JSON")]⟩

theorem quiet_presents_json :
    Line.ofArguments? ["--no-color", "-q", "check"] = some quietLine
      ∧ quietLine.Presents openWriteDisk shoutingSurroundings
        ⟨.json, true, true, false, ⟨80, some .sixteen, false⟩⟩ := by
  have read : Line.ofArguments? ["--no-color", "-q", "check"] = some quietLine := by decide +kernel
  have presented : quietLine.presentation shoutingSurroundings
      = .ok ⟨.plain, true, true, false, ⟨80, some .sixteen, false⟩⟩ := by decide +kernel
  have settled : Settings.resolve openWriteDisk shoutingSurroundings.environment quietLine.choices
      = .ok ⟨".", false, false, .json⟩ := toOption_eq_some_iff.mp (by decide +kernel)
  have found : Answer.find openWriteDisk ⟨".", false, false, .json⟩ .check
      = .ok (.report openWriteReport) := by
    rw [Answer.find, ofProject_openWriteDisk]
    rfl
  exact ⟨read, ((run_presents read).1 _ _ _ (.intro presented settled found)).1⟩

end Cli
end ExposureLint
