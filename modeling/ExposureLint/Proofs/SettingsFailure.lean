import Mathlib
import ExposureLint.Proofs.ParseFailure
import ExposureLint.Settings

/-!
What resolving the settings leads to. As documented, it gives the settings, or an error of the
configuration. Four faults of the file in the project come out as they are: its path is too long,
its bytes are no text, a text in it has a fault without a place, or it goes deeper than there is
room.
-/
namespace ExposureLint

namespace Disk
variable {disk : Disk} {file : Path}

theorem leadsTo_error_iff {kind : Entry → Bool} {fault : FileFault} :
    disk.leadsTo kind file = .error fault ↔ disk.status file = .tooLong ∧ .tooLong file = fault := by
  unfold leadsTo
  split <;> simp_all

theorem leadsTo_true_iff {kind : Entry → Bool} :
    disk.leadsTo kind file = .ok true
      ↔ ∃ place entry, disk.status file = .found place entry ∧ kind entry = true := by
  unfold leadsTo
  split <;> simp_all

theorem isFile_true_iff : disk.isFile file = .ok true
    ↔ ∃ place content, disk.status file = .found place (.file content) := by
  rw [isFile, leadsTo_true_iff]
  constructor
  · rintro ⟨place, entry | _, found, file⟩
    · exact ⟨place, entry, found⟩
    · cases file
  · rintro ⟨place, content, found⟩
    exact ⟨place, .file content, found, rfl⟩

theorem readText_of_found {place : Place} {content : List UInt8}
    (found : disk.status file = .found place (.file content)) :
    disk.readText file
      = ((Utf8.decode content).map Text.normalizeLineEnds).mapError FileFault.encoding := by
  simp only [readText, readBytes, found]
  cases decoded : Utf8.decode content with
  | ok t => simp [bind, Except.bind, decoded, pure, Except.pure, Except.map, Except.mapError]
  | error fault =>
    simp [bind, Except.bind, decoded, throw, throwThe, MonadExceptOf.throw, Except.map,
      Except.mapError]

end Disk

namespace Settings
variable {disk : Disk} {env : Environment} {c : Choices} {file : Path} {root : Text}

def fileIn (root : Text) : Path := (Path.ofText root).child fileName

/-- A fault of the file that comes out as it is. -/
inductive Escapes [Host] (disk : Disk) (file : Path) : Mishap → Prop
  | tooLong (beyond : disk.status file = .tooLong) : Escapes disk file (.file (.tooLong file))
  | bytes {place : Place} {content : List UInt8} {fault : Utf8.Fault}
    (found : disk.status file = .found place (.file content))
    (refused : Utf8.decode content = .error fault) : Escapes disk file (.encoding fault)
  | scalar {whole : Text} {fault : Yaml.ScalarFault} (isFile : disk.isFile file = .ok true)
    (held : disk.readText file = .ok whole)
    (refused : Yaml.read (Host.yamlRoom whole) whole = .error (.scalar fault))
    (stray : Yaml.IsStray fault) : Escapes disk file (.scalar fault)
  | depth {whole : Text} (isFile : disk.isFile file = .ok true)
    (held : disk.readText file = .ok whole)
    (deep : Yaml.read (Host.yamlRoom whole) whole = .error .tooDeep) : Escapes disk file .tooDeep

/-- An error of the configuration, with the exit code for such. -/
def IsConfig (f : Failure) : Prop := ∃ e, f = .lint e ∧ e.kind = .config ∧ e.exitCode = 3

theorem settings_isConfig (fault : SettingsFault) : IsConfig (.lint (.settings fault)) :=
  ⟨_, rfl, rfl, rfl⟩

theorem mishap_not_isConfig (m : Mishap) : ¬ IsConfig (.mishap m) := by
  rintro ⟨e, same, -⟩
  cases same

theorem refuse_yields {α : Type} {Q : α → Prop} (fault : SettingsFault) :
    Yields IsConfig Q (refuse fault : Except Failure α) :=
  .error (settings_isConfig fault)

theorem sectionOf_yields (file : Path) (whole : Value) :
    FailsOnly IsConfig (sectionOf file whole) := by
  unfold sectionOf
  refine .ite (.ok trivial) ?_
  split
  · exact refuse_yields _
  · split
    · exact .ok trivial
    · refine .ite (.ok trivial) ?_
      split
      · exact refuse_yields _
      · exact .ite (refuse_yields _) (.ok trivial)

theorem bool?_yields (name : Text) :
    FailsOnly IsConfig ((env.bool? name).mapError fun fault => Failure.lint (.settings fault)) :=
  (Yields.any _).mapError fun fault _ => settings_isConfig fault

def asUndecodable (file : Path) (fault : DecodeFault) : LintError :=
  .settings (.undecodable file fault)

section
variable [Host] {file : Path} (here : fileIn root = file)
include here

theorem loadSection_of_fault {fault : FileFault} (unknown : disk.isFile file = .error fault) :
    loadSection disk root = .error (.mishap (.file fault)) := by
  subst here
  unfold fileIn at unknown
  simp only [loadSection, unknown]
  rfl

theorem loadSection_of_missing (missing : disk.isFile file = .ok false) :
    loadSection disk root = .ok [] := by
  subst here
  unfold fileIn at missing
  simp only [loadSection, missing]
  rfl

theorem loadSection_of_unreadable {fault : Utf8.Fault} (isFile : disk.isFile file = .ok true)
    (refused : disk.readText file = .error (.encoding fault)) :
    loadSection disk root = .error (.mishap (.encoding fault)) := by
  subst here
  unfold fileIn at isFile refused
  simp only [loadSection, isFile, refused]
  rfl

theorem loadSection_of_text {whole : Text} (isFile : disk.isFile file = .ok true)
    (held : disk.readText file = .ok whole) :
    loadSection disk root
      = (Format.yaml.read whole).mapError (Failure.ofDecode (asUndecodable file))
        >>= sectionOf file := by
  subst here
  rw [← decode_eq]
  unfold fileIn at isFile held
  simp only [loadSection, isFile, held]
  rfl

end

theorem loadSection_cases [Host] (disk : Disk) (root : Text) :
    FailsOnly IsConfig (loadSection disk root)
      ∨ ∃ m, loadSection disk root = .error (.mishap m) ∧ Escapes disk (fileIn root) m := by
  cases known : disk.isFile (fileIn root) with
  | error fault =>
    obtain ⟨beyond, rfl⟩ := Disk.leadsTo_error_iff.mp known
    exact .inr ⟨_, loadSection_of_fault rfl known, .tooLong beyond⟩
  | ok there =>
    cases there with
    | false => exact .inl (loadSection_of_missing rfl known ▸ .ok trivial)
    | true =>
      obtain ⟨place, content, found⟩ := Disk.isFile_true_iff.mp known
      have text := Disk.readText_of_found found
      cases decoded : Utf8.decode content with
      | error fault =>
        rw [decoded] at text
        exact .inr ⟨_, loadSection_of_unreadable rfl known text, .bytes found decoded⟩
      | ok t =>
        rw [decoded] at text
        rw [loadSection_of_text rfl known text]
        cases read : Format.yaml.read t.normalizeLineEnds with
        | ok value => exact .inl (sectionOf_yields _ value)
        | error fault =>
          obtain ⟨inner, found, rfl⟩ := mapError_eq_error_iff.mp read
          cases inner with
          | scalar stray =>
            have isStray := (Yaml.read_yields _ _).of_error found stray rfl
            exact .inr ⟨_, rfl, .scalar known text found isStray⟩
          | tooDeep => exact .inr ⟨_, rfl, .depth known text found⟩
          | character c pos => exact .inl (.error (settings_isConfig _))
          | complaint complaint => exact .inl (.error (settings_isConfig _))

theorem Escapes.loadSection [Host] {m : Mishap} (escapes : Escapes disk (fileIn root) m) :
    Settings.loadSection disk root = .error (.mishap m) := by
  cases escapes with
  | tooLong beyond => exact loadSection_of_fault rfl (Disk.leadsTo_error_iff.mpr ⟨beyond, rfl⟩)
  | bytes found refused =>
    have isFile := Disk.isFile_true_iff.mpr ⟨_, _, found⟩
    refine loadSection_of_unreadable rfl isFile ?_
    rw [Disk.readText_of_found found, refused]
    rfl
  | scalar isFile held refused stray =>
    rw [loadSection_of_text rfl isFile held, Format.read, refused]
    rfl
  | depth isFile held deep =>
    rw [loadSection_of_text rfl isFile held, Format.read, deep]
    rfl

/-- All that follows once the section is loaded can only be refused as an error of the
configuration. -/
theorem resolve_eq [Host] (disk : Disk) (env : Environment) (c : Choices) :
    ∃ next : List (Scalar × Value) → Except Failure Settings,
      resolve disk env c = loadSection disk (rootOf env c) >>= next
        ∧ ∀ entries, FailsOnly IsConfig (next entries) := by
  refine ⟨_, rfl, fun entries => ?_⟩
  refine (bool?_yields _).bind fun strict _ => (bool?_yields _).bind fun allow _ => ?_
  exact (Yields.any _).mapError fun why _ => settings_isConfig _

section
variable {α β : Type} {x : Except Failure α} {next : α → Except Failure β}

/-- A step whose next ones are refused only as documented goes as documented when it does, and has
the same mishaps. -/
theorem bind_documented (following : ∀ a, FailsOnly IsConfig (next a)) :
    (FailsOnly IsConfig (x >>= next) ↔ FailsOnly IsConfig x)
      ∧ ∀ m, (x >>= next) = .error (.mishap m) ↔ x = .error (.mishap m) := by
  cases x with
  | error e =>
    refine ⟨⟨fun documented => .error (documented.of_error rfl), fun documented => ?_⟩, fun m => ?_⟩
    · exact .error (documented.of_error rfl)
    · simp [bind, Except.bind]
  | ok a =>
    refine ⟨⟨fun _ => .ok trivial, fun _ => following a⟩,
      fun m => ⟨fun failed => ?_, fun failed => ?_⟩⟩
    · exact absurd ((following a).of_error failed) (mishap_not_isConfig m)
    · cases failed

end

/-- Settings are resolved as documented exactly when no fault of the file in the project comes out
as it is: the path of the file is not too long, its bytes are a text, and the text is not refused
for an escape, a version or a scalar that its tag does not fit, nor for its depth. The section alone
is loaded as documented under the same condition, and the mishaps are those faults. -/
theorem resolve_documented_iff [Host] (disk : Disk) (env : Environment) (c : Choices) :
    (FailsOnly IsConfig (resolve disk env c)
        ↔ ¬ ∃ m, Escapes disk (fileIn (rootOf env c)) m)
      ∧ (∀ m, resolve disk env c = .error (.mishap m)
        ↔ Escapes disk (fileIn (rootOf env c)) m)
      ∧ ∀ root, (FailsOnly IsConfig (loadSection disk root) ↔ ¬ ∃ m, Escapes disk (fileIn root) m)
        ∧ ∀ m, loadSection disk root = .error (.mishap m) ↔ Escapes disk (fileIn root) m := by
  have loaded (root : Text) :
      (FailsOnly IsConfig (loadSection disk root) ↔ ¬ ∃ m, Escapes disk (fileIn root) m)
        ∧ ∀ m, loadSection disk root = .error (.mishap m) ↔ Escapes disk (fileIn root) m := by
    refine ⟨⟨?_, fun none => ?_⟩, fun m => ⟨fun failed => ?_, Escapes.loadSection⟩⟩
    · rintro documented ⟨m, escapes⟩
      exact mishap_not_isConfig m (documented.of_error escapes.loadSection)
    · exact (loadSection_cases disk root).resolve_right fun ⟨m, _, escapes⟩ => none ⟨m, escapes⟩
    · obtain documented | ⟨m', failed', escapes⟩ := loadSection_cases disk root
      · exact absurd (documented.of_error failed) (mishap_not_isConfig m)
      · obtain rfl : m' = m := by simpa [failed'] using failed
        exact escapes
  obtain ⟨next, resolved, following⟩ := resolve_eq disk env c
  obtain ⟨documented, mishaps⟩ := bind_documented (x := loadSection disk (rootOf env c)) following
  refine ⟨?_, fun m => ?_, loaded⟩
  · rw [resolved, documented, (loaded _).1]
  · rw [resolved, mishaps, (loaded _).2]

/-- A project whose file of settings is one byte that begins no character. -/
def badByteDisk : Disk := .withFile "dispatch.yaml" "\xff"

def isBadByte : Except Failure Settings → Bool
  | .error (.mishap (.encoding fault)) => fault == ⟨0xff, 0, 1, .startByte⟩
  | _ => false

theorem isBadByte_iff {r : Except Failure Settings} :
    isBadByte r = true ↔ r = .error (.mishap (.encoding ⟨0xff, 0, 1, .startByte⟩)) := by
  unfold isBadByte
  split <;> simp_all

/-- A file of settings that is no text is no error of the configuration. -/
theorem bad_byte_undocumented :
    resolve badByteDisk [] ⟨none, none, none, none⟩
        = .error (.mishap (.encoding ⟨0xff, 0, 1, .startByte⟩))
      ∧ ¬ FailsOnly IsConfig (resolve badByteDisk [] ⟨none, none, none, none⟩) := by
  have failed : isBadByte (resolve badByteDisk [] ⟨none, none, none, none⟩) = true := by
    decide +kernel
  rw [isBadByte_iff.mp failed]
  exact ⟨rfl, fun documented => mishap_not_isConfig _ (documented.of_error rfl)⟩

end Settings
end ExposureLint
