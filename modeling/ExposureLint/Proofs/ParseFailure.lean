import Mathlib
import ExposureLint.Project.Pipeline
import ExposureLint.Proofs.JsonReader
import ExposureLint.Proofs.YamlReader

/-!
What parsing a file leads to. As documented, it gives the value in the file, or an error that names
the file and shows what is wrong with it. Four faults come out as they are: a path that names
nothing, an integer with too many digits in a JSON text, a fault without a place in a YAML text, and
a text that goes deeper than there is room.
-/
namespace ExposureLint

open Spec

/-- The value in a text of a format. -/
def Format.read [Host] : Format → Text → Except DecodeFault Value
  | .json, whole => (Json.readWithin (Host.jsonRoom whole) whole).mapError (.json whole)
  | .yaml, whole => (Yaml.read (Host.yamlRoom whole) whole).mapError (.yaml whole)

/-- What a fault of a text becomes. -/
def Failure.ofDecode (foreseen : DecodeFault → LintError) : DecodeFault → Failure
  | .json whole fault => Failure.ofJson foreseen whole fault
  | .yaml whole fault => Failure.ofYaml foreseen whole fault

section
variable [Host] {foreseen : DecodeFault → LintError} {format : Format} {whole : Text}

theorem decode_eq :
    decode foreseen format whole = (format.read whole).mapError (Failure.ofDecode foreseen) := by
  cases format with
  | json =>
    simp only [decode, Format.read]
    cases Json.readWithin (Host.jsonRoom whole) whole <;> rfl
  | yaml =>
    simp only [decode, Format.read]
    cases Yaml.read (Host.yamlRoom whole) whole <;> rfl

theorem Format.read_json_eq_ok_iff {document : Value} :
    Format.json.read whole = .ok document
      ↔ Json.readWithin (Host.jsonRoom whole) whole = .ok document :=
  mapError_eq_ok_iff

theorem Format.read_yaml_eq_ok_iff {document : Value} :
    Format.yaml.read whole = .ok document
      ↔ Yaml.read (Host.yamlRoom whole) whole = .ok document :=
  mapError_eq_ok_iff

theorem decode_eq_ok_iff {document : Value} :
    decode foreseen format whole = .ok document ↔ format.read whole = .ok document := by
  rw [decode_eq, mapError_eq_ok_iff]

/-- A fault of a text is foreseen, or it is one of four that come out as they are. -/
theorem Format.read_error_cases {fault : DecodeFault} (refused : format.read whole = .error fault) :
    (∀ foreseen, Failure.ofDecode foreseen fault = .lint (foreseen fault))
      ∨ (∃ count, Numeral.digitLimit < count ∧ fault = .json whole (.number (.tooManyDigits count)))
      ∨ (∃ stray, Yaml.IsStray stray ∧ fault = .yaml whole (.scalar stray))
      ∨ fault = .json whole .tooDeep ∨ fault = .yaml whole .tooDeep := by
  cases format with
  | json =>
    obtain ⟨inner, found, rfl⟩ := mapError_eq_error_iff.mp refused
    cases inner with
    | malformed reason pos => exact .inl fun _ => rfl
    | number fault =>
      obtain ⟨count, many, rfl⟩ := (Json.readWithin_yields _ whole).of_error found fault rfl
      exact .inr (.inl ⟨count, many, rfl⟩)
    | tooDeep => exact .inr (.inr (.inr (.inl rfl)))
  | yaml =>
    obtain ⟨inner, found, rfl⟩ := mapError_eq_error_iff.mp refused
    cases inner with
    | character c pos => exact .inl fun _ => rfl
    | complaint c => exact .inl fun _ => rfl
    | scalar fault =>
      exact .inr (.inr (.inl ⟨fault, (Yaml.read_yields _ whole).of_error found fault rfl, rfl⟩))
    | tooDeep => exact .inr (.inr (.inr (.inr rfl)))

theorem Format.read_isKeyed {document : Value} (read : format.read whole = .ok document) :
    document.isKeyed = true := by
  cases format with
  | json => exact ((Json.readWithin_yields _ whole).of_ok (read_json_eq_ok_iff.mp read)).isKeyed
  | yaml => exact (Yaml.read_yields _ whole).of_ok (read_yaml_eq_ok_iff.mp read)

end

variable {disk : Disk} {file : Path} {format : Format}

namespace Disk

/-- A working directory with one file in it. -/
def withFile (name content : Text) : Disk :=
  ⟨["w"], [(["w"], .directory), (["w", name], .file (content.map fun c => c.val.toUInt8))]⟩

variable {why : Path.Unnameable}

theorem follow_ne_unnameable (place : Place) (parts : List Text) :
    disk.follow place parts ≠ .unnameable why := by
  induction parts generalizing place with
  | nil =>
    unfold follow
    split <;> simp
  | cons p rest ih =>
    unfold follow
    split
    · split
      · simp
      · exact ih _
    · simp
    · simp

theorem status_unnameable_iff (disk : Disk) :
    disk.status file = .unnameable why ↔ Path.unnameable? file.text = some why := by
  unfold status
  split
  · rename_i found
    simp [found]
  · rename_i nameable
    split
    · simp [nameable]
    · simp [nameable, follow_ne_unnameable]

theorem readBytes_unnameable_iff (disk : Disk) :
    disk.readBytes file = .error (.unnameable why) ↔ Path.unnameable? file.text = some why := by
  rw [← status_unnameable_iff disk]
  unfold readBytes
  split <;> simp_all

theorem readText_unnameable_iff :
    disk.readText file = .error (.unnameable why) ↔ Path.unnameable? file.text = some why := by
  rw [← readBytes_unnameable_iff disk]
  simp only [readText]
  cases disk.readBytes file with
  | error fault => simp [bind, Except.bind]
  | ok content =>
    simp only [bind, Except.bind]
    split <;> simp [pure, Except.pure, throw, throwThe, MonadExceptOf.throw]

end Disk

namespace Spec

/-- An error that says which file cannot be parsed, and why. -/
structure Tells [Host] (file : Path) (cause : Text) (e : LintError) : Prop where
  kind : e.kind = .specParse
  about : e.file? = some file
  names : file.text <:+: e.message
  shows : cause <:+: e.message

/-- What parsing a file is documented to lead to. -/
inductive IsDocumented [Host] (disk : Disk) (file : Path) (format : Format) :
    Except Failure Value → Prop
  | value {whole : Text} {document : Value} (held : disk.readText file = .ok whole)
    (decoded : format.read whole = .ok document) : IsDocumented disk file format (.ok document)
  | unreadable {fault : FileFault} (refused : disk.readText file = .error fault)
    (told : Tells file fault.message (.unreadable file fault)) :
    IsDocumented disk file format (.error (.lint (.unreadable file fault)))
  | undecodable {whole : Text} {fault : DecodeFault} (held : disk.readText file = .ok whole)
    (refused : format.read whole = .error fault)
    (told : Tells file fault.message (.undecodable file fault)) :
    IsDocumented disk file format (.error (.lint (.undecodable file fault)))

/-- A fault that comes out as it is. -/
inductive Escapes [Host] (disk : Disk) (file : Path) (format : Format) : Mishap → Prop
  | name {why : Path.Unnameable} (nameless : Path.unnameable? file.text = some why) :
    Escapes disk file format (.file (.unnameable why))
  | digits {whole : Text} {count : Nat} (held : disk.readText file = .ok whole)
    (refused : format.read whole = .error (.json whole (.number (.tooManyDigits count))))
    (many : Numeral.digitLimit < count) :
    Escapes disk file format (.number (.tooManyDigits count))
  | scalar {whole : Text} {fault : Yaml.ScalarFault} (held : disk.readText file = .ok whole)
    (refused : format.read whole = .error (.yaml whole (.scalar fault)))
    (stray : Yaml.IsStray fault) : Escapes disk file format (.scalar fault)
  | depth {whole : Text} {fault : DecodeFault} (held : disk.readText file = .ok whole)
    (refused : format.read whole = .error fault)
    (deep : fault = .json whole .tooDeep ∨ fault = .yaml whole .tooDeep) :
    Escapes disk file format .tooDeep

section
variable [Host]

theorem Tells.of_message {cause start : Text} {e : LintError} (kind : e.kind = .specParse)
    (about : e.file? = some file) (message : e.message = start ++ file.text ++ "': " ++ cause) :
    Tells file cause e where
  kind := kind
  about := about
  names := ⟨start, "': " ++ cause, by rw [message, List.append_assoc (start ++ file.text)]⟩
  shows := ⟨start ++ file.text ++ "': ", [], by rw [message, List.append_nil]⟩

theorem unreadable_tells (file : Path) (fault : FileFault) :
    Tells file fault.message (.unreadable file fault) :=
  .of_message rfl rfl rfl

theorem undecodable_tells (file : Path) (fault : DecodeFault) :
    Tells file fault.message (.undecodable file fault) :=
  .of_message rfl rfl rfl

theorem parse_eq_ok_iff {document : Value} (supported : Format.ofPath? file = some format) :
    parse disk file = .ok document ↔
      ∃ whole, disk.readText file = .ok whole ∧ format.read whole = .ok document := by
  simp only [parse, supported]
  cases disk.readText file with
  | ok whole => simp [decode_eq_ok_iff]
  | error fault => cases fault <;> simp

/-- All mappings of a document in a file have distinct keys. -/
theorem parse_isKeyed {document : Value} (parsed : parse disk file = .ok document) :
    document.isKeyed = true := by
  cases supported : Format.ofPath? file with
  | none =>
    rw [parse, supported] at parsed
    cases parsed
  | some format =>
    obtain ⟨whole, -, read⟩ := (parse_eq_ok_iff supported).mp parsed
    exact Format.read_isKeyed read

theorem parse_cases (disk : Disk) (supported : Format.ofPath? file = some format) :
    IsDocumented disk file format (parse disk file)
      ∨ ∃ m, parse disk file = .error (.mishap m) ∧ Escapes disk file format m := by
  simp only [parse, supported]
  cases held : disk.readText file with
  | error fault =>
    have foreseen : IsDocumented disk file format (.error (.lint (.unreadable file fault))) :=
      .unreadable held (unreadable_tells file fault)
    cases fault with
    | unnameable why =>
      exact .inr ⟨_, rfl, .name (Disk.readText_unnameable_iff.mp held)⟩
    | _ => exact .inl foreseen
  | ok whole =>
    simp only [decode_eq]
    cases read : format.read whole with
    | ok document => exact .inl (.value held read)
    | error fault =>
      rcases Format.read_error_cases read with foreseen | ⟨count, many, rfl⟩ | ⟨stray, known, rfl⟩
        | deep
      · simp only [Except.mapError, foreseen]
        exact .inl (.undecodable held read (undecodable_tells file fault))
      · exact .inr ⟨_, rfl, .digits held read many⟩
      · exact .inr ⟨_, rfl, .scalar held read known⟩
      · refine .inr ⟨_, ?_, .depth held read deep⟩
        rcases deep with rfl | rfl <;> rfl

theorem Escapes.parse {m : Mishap} (supported : Format.ofPath? file = some format)
    (escapes : Escapes disk file format m) : Spec.parse disk file = .error (.mishap m) := by
  simp only [Spec.parse, supported]
  cases escapes with
  | name nameless => rw [Disk.readText_unnameable_iff.mpr nameless]
  | digits held refused many =>
    rw [held]
    simp only [decode_eq, refused]
    rfl
  | scalar held refused stray =>
    rw [held]
    simp only [decode_eq, refused]
    rfl
  | depth held refused deep =>
    rw [held]
    simp only [decode_eq, refused]
    rcases deep with rfl | rfl <;> rfl

/-- A file is parsed as documented exactly when no fault comes out as it is: the path names
something, a JSON text is not refused for the digits of an integer, a YAML text not for an escape, a
version or a text that its tag does not fit, and neither for its depth. -/
theorem parse_documented_iff (supported : Format.ofPath? file = some format) :
    (IsDocumented disk file format (parse disk file) ↔ ¬ ∃ m, Escapes disk file format m)
      ∧ ∀ m, parse disk file = .error (.mishap m) ↔ Escapes disk file format m := by
  have undocumented (m : Mishap) : ¬ IsDocumented disk file format (.error (.mishap m)) := by
    intro documented
    cases documented
  have escaped (m : Mishap) :
      parse disk file = .error (.mishap m) ↔ Escapes disk file format m := by
    refine ⟨fun failed => ?_, Escapes.parse supported⟩
    obtain documented | ⟨m', failed', escapes⟩ := parse_cases disk supported
    · exact absurd (failed ▸ documented) (undocumented m)
    · obtain rfl : m' = m := by simpa [failed'] using failed
      exact escapes
  refine ⟨⟨?_, fun none => ?_⟩, escaped⟩
  · rintro documented ⟨m, escapes⟩
    exact undocumented m (escapes.parse supported ▸ documented)
  · exact (parse_cases disk supported).resolve_right fun ⟨m, _, escapes⟩ => none ⟨m, escapes⟩

end

/-- A node that stands behind its own equals sign takes all the room there is. -/
example : (parse (.withFile "openapi.yaml" "&a !!str \x7b=: *a\x7d") (Path.ofText "openapi.yaml")
    matches .error (.mishap .tooDeep)) = true := by decide +kernel

theorem missing_parse_documented :
    Format.ofPath? (Path.ofText "openapi.YML") = some .yaml
      ∧ (IsDocumented ⟨[], []⟩ (Path.ofText "openapi.YML") .yaml
          (parse ⟨[], []⟩ (Path.ofText "openapi.YML"))
        ↔ ¬ ∃ m, Escapes ⟨[], []⟩ (Path.ofText "openapi.YML") .yaml m)
      ∧ ∀ m, parse ⟨[], []⟩ (Path.ofText "openapi.YML") = .error (.mishap m)
        ↔ Escapes ⟨[], []⟩ (Path.ofText "openapi.YML") .yaml m := by
  have supported : Format.ofPath? (Path.ofText "openapi.YML") = some .yaml := by
    decide +kernel
  exact ⟨supported, parse_documented_iff supported⟩

def badDateDisk : Disk := .withFile "openapi.yaml" "2020-13-01"

def isBadMonth {α : Type} : Except Failure α → Bool
  | .error (.mishap (.scalar (.calendar .month))) => true
  | _ => false

theorem isBadMonth_iff {α : Type} {r : Except Failure α} :
    isBadMonth r = true ↔ r = .error (.mishap (.scalar (.calendar .month))) := by
  unfold isBadMonth
  split <;> simp_all

/-- A date whose month does not exist is no error that names the file. -/
theorem bad_date_undocumented :
    Format.ofPath? (Path.ofText "openapi.yaml") = some .yaml
      ∧ parse badDateDisk (Path.ofText "openapi.yaml")
        = .error (.mishap (.scalar (.calendar .month)))
      ∧ ¬ IsDocumented badDateDisk (Path.ofText "openapi.yaml") .yaml
        (parse badDateDisk (Path.ofText "openapi.yaml")) := by
  have failed : isBadMonth (parse badDateDisk (Path.ofText "openapi.yaml")) = true := by
    decide +kernel
  rw [isBadMonth_iff.mp failed]
  refine ⟨by decide +kernel, rfl, fun documented => ?_⟩
  cases documented

end Spec
end ExposureLint
