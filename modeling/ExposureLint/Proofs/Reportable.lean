import Mathlib
import ExposureLint.Proofs.Listable
import ExposureLint.Proofs.ParseFailure
import ExposureLint.Proofs.Verdict

/-!
When there is a report on a sound document. A JSON text holds no integer without a text, so a
document that comes from one has a report unless a reason is too deep to be told; YAML has larger
integers, and where the text of one is taken there is none.
-/
namespace ExposureLint

open Spec

variable {disk : Disk} {file : Path} {document : Value} {version : Text}

theorem Spec.validate_mapping [Host] (sound : validate document = .ok version) :
    ∃ top, document.entries? = some top := by
  cases mapping : document.entries? with
  | some top => exact ⟨top, rfl⟩
  | none => simp [validate, check, mapping] at sound

/-- A document that is read from JSON has no integer beyond the limit on digits. -/
theorem Spec.parse_json_writable [Host] (json : Format.ofPath? file = some .json)
    (parsed : parse disk file = .ok document) : document.IsWritable := by
  obtain ⟨whole, -, decoded⟩ := (parse_eq_ok_iff json).mp parsed
  exact ((Json.readWithin_yields _ whole).of_ok (Format.read_json_eq_ok_iff.mp decoded)).isWritable

namespace Report

/-- A sound document has its operations listed and a report made just when every scalar whose text
is taken has one and there is room for every reason that is kept. Otherwise both fail, and with a
fault that the document gives cause for. In a document from a JSON file only the room can be
missing. -/
theorem report_iff_listable [Host] (parsed : parse disk file = .ok document)
    (sound : validate document = .ok version) (specPath : Option Path) :
    ((∃ ops, normalize document = .ok ops) ↔ Listable document)
      ∧ ((∃ r, (ofDocument specPath document).outcome.1 = .ok r) ↔ Listable document)
      ∧ (¬ Listable document → ∃ fault, Obstructs document fault
        ∧ normalize document = .error (.mishap (.ofText fault))
        ∧ (ofDocument specPath document).outcome.1 = .error (.mishap (.ofText fault)))
      ∧ (Format.ofPath? file = some .json →
        (Listable document ↔ ∀ d ∈ Declaration.all document, d.HasRoom)) := by
  obtain ⟨top, mapping⟩ := validate_mapping sound
  have listable := exists_normalize_iff mapping
  have report : (∃ r, (ofDocument specPath document).outcome.1 = .ok r)
      ↔ ∃ ops, normalize document = .ok ops := by
    simp only [ofDocument_eq_ok_iff]
    exact ⟨fun ⟨_, ops, listed, _⟩ => ⟨ops, listed⟩, fun ⟨ops, listed⟩ => ⟨_, ops, listed, rfl⟩⟩
  refine ⟨listable, report.trans listable, fun unlistable => ?_,
    fun json => listable_iff_room (parse_json_writable json parsed)⟩
  cases listed : normalize document with
  | ok ops => exact absurd (listable.mp ⟨ops, listed⟩) unlistable
  | error e =>
    obtain ⟨fault, obstructs, rfl⟩ := (normalize_yields mapping).of_error listed
    exact ⟨fault, obstructs, rfl, ofDocument_error listed⟩

def isSound [Host] (disk : Disk) (file : Path) : Bool :=
  match parse disk file with
  | .ok document => (validate document).toBool
  | .error _ => false

theorem isSound_iff [Host] : isSound disk file = true ↔
    ∃ document version, parse disk file = .ok document ∧ validate document = .ok version := by
  unfold isSound
  cases parse disk file with
  | error e => simp
  | ok document => cases checked : validate document <;> simp [Except.toBool, checked]

def plainText : Text :=
  "\x7b\"openapi\": \"3.0.0\", \"info\": \x7b\x7d, \"paths\": \x7b\"/a\": \x7b\"get\": \x7b\x7d\x7d\x7d\x7d"

theorem plain_report_iff_listable :
    ∃ document version,
      parse (.withFile "a.json" plainText) (Path.ofText "a.json") = .ok document
      ∧ validate document = .ok version
      ∧ ((∃ ops, normalize document = .ok ops) ↔ Listable document)
      ∧ ((∃ r, (ofDocument none document).outcome.1 = .ok r) ↔ Listable document)
      ∧ (¬ Listable document → ∃ fault, Obstructs document fault
        ∧ normalize document = .error (.mishap (.ofText fault))
        ∧ (ofDocument none document).outcome.1 = .error (.mishap (.ofText fault)))
      ∧ (Format.ofPath? (Path.ofText "a.json") = some .json →
        (Listable document ↔ ∀ d ∈ Declaration.all document, d.HasRoom)) := by
  have both : isSound (.withFile "a.json" plainText) (Path.ofText "a.json") = true := by
    decide +kernel
  obtain ⟨document, version, parsed, sound⟩ := isSound_iff.mp both
  exact ⟨document, version, parsed, sound, report_iff_listable parsed sound none⟩

/-- A sound document whose only key under a path is an integer of 3572 hexadecimal digits. -/
def hugeKeyText : Text :=
  "openapi: 3.0.0\ninfo: \x7b\x7d\npaths: \x7b/a: \x7b? !!int \"0x"
    ++ List.replicate 3572 (CodePoint.ofChar 'f') ++ "\" : 1\x7d\x7d\n"

def hugeKeyDisk : Disk := .withFile "openapi.yaml" hugeKeyText

def hugeKeyDocument (key : Int) (value : Value) : Value := .map [
  (.text "openapi", .text "3.0.0"), (.text "info", .map []),
  (.text "paths", .map [(.text "/a", .map [(.int key, value)])])]

def isHugeKeyDocument : Except Yaml.Fault Value → Bool
  | .ok (.map [(.text openapi, .scalar (.text version)), (.text info, .map []),
      (.text paths, .map [(.text path, .map [(.int key, _)])])]) =>
    openapi == Text.ofString "openapi" && version == Text.ofString "3.0.0"
      && info == Text.ofString "info" && paths == Text.ofString "paths"
      && path == Text.ofString "/a" && decide (tenTo Numeral.digitLimit ≤ key.natAbs)
  | _ => false

theorem isHugeKeyDocument_iff {r : Except Yaml.Fault Value} (huge : isHugeKeyDocument r = true) :
    ∃ key value, r = .ok (hugeKeyDocument key value) ∧ tenTo Numeral.digitLimit ≤ key.natAbs := by
  unfold isHugeKeyDocument at huge
  split at huge
  · rename_i openapi version info paths path key value
    simp only [Bool.and_eq_true, beq_iff_eq, decide_eq_true_eq] at huge
    obtain ⟨⟨⟨⟨⟨rfl, rfl⟩, rfl⟩, rfl⟩, rfl⟩, large⟩ := huge
    exact ⟨key, value, rfl, large⟩
  · cases huge

theorem hugeKeyDocument_unlistable [Host] {key : Int} (value : Value)
    (large : tenTo Numeral.digitLimit ≤ key.natAbs) : ¬ Listable (hugeKeyDocument key value) := by
  intro listable
  have paths : entriesOf (fieldOf? (hugeKeyDocument key value) "paths")
      = [(.text "/a", .map [(.int key, value)])] := rfl
  have writable := listable.keys (.text "/a", .map [(.int key, value)])
    (paths ▸ List.mem_singleton_self _) (.int key, value) (List.mem_singleton_self _)
  exact absurd large (Nat.not_le.mpr (Scalar.isWritable_int.mp writable))

set_option maxRecDepth 100000 in
theorem hugeKeyDisk_readText :
    hugeKeyDisk.readText (Path.ofText "openapi.yaml") = .ok hugeKeyText := by
  have held : ((hugeKeyDisk.readText (Path.ofText "openapi.yaml")).toOption == some hugeKeyText)
      = true := by
    decide +kernel
  exact toOption_eq_some_iff.mp (eq_of_beq held)

set_option maxRecDepth 100000 in
theorem hugeKeyText_read :
    isHugeKeyDocument (Yaml.read (Host.yamlRoom hugeKeyText) hugeKeyText) = true := by
  decide +kernel

/-- A sound document without a list of operations and without a report. -/
theorem huge_key_has_no_report :
    ∃ document, parse hugeKeyDisk (Path.ofText "openapi.yaml") = .ok document
      ∧ validate document = .ok "3.0.0"
      ∧ (¬ ∃ ops, normalize document = .ok ops)
      ∧ ¬ ∃ r, (ofDocument none document).outcome.1 = .ok r := by
  obtain ⟨key, value, read, large⟩ := isHugeKeyDocument_iff hugeKeyText_read
  have yaml : Format.ofPath? (Path.ofText "openapi.yaml") = some .yaml := by
    decide +kernel
  have parsed : parse hugeKeyDisk (Path.ofText "openapi.yaml") = .ok (hugeKeyDocument key value) :=
    (parse_eq_ok_iff yaml).mpr
      ⟨hugeKeyText, hugeKeyDisk_readText, Format.read_yaml_eq_ok_iff.mpr read⟩
  have sound : validate (hugeKeyDocument key value) = .ok "3.0.0" := rfl
  have unlistable := hugeKeyDocument_unlistable value large
  have unlisted : ¬ ∃ ops, normalize (hugeKeyDocument key value) = .ok ops := by
    obtain ⟨top, mapping⟩ := validate_mapping sound
    exact fun listed => unlistable ((exists_normalize_iff mapping).mp listed)
  refine ⟨_, parsed, sound, unlisted, ?_⟩
  rintro ⟨r, built⟩
  obtain ⟨ops, listed, -⟩ := ofDocument_eq_ok_iff.mp built
  exact unlisted ⟨ops, listed⟩

end Report
end ExposureLint
