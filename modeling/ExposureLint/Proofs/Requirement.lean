import Mathlib
import ExposureLint.Proofs.Consistency

/-!
What a document must have. The requirements stand in a fixed order; a document that meets them all
is sound, and of any other one the first that it fails is told. What is told depends on no other
part of a mapping than its version, and the older version under another key.
-/
namespace ExposureLint.Spec

/-- Versions that count as none: null, the empty text, zeros and false. -/
inductive IsBlank : Value → Prop
  | null : IsBlank (.scalar .null)
  | text : IsBlank (.scalar (.text []))
  | bool : IsBlank (.scalar (.bool false))
  | int : IsBlank (.scalar (.int 0))
  | float {x : Binary64} (zero : x.isNonzero = false) : IsBlank (.scalar (.float x))

/-- What is required of a document, in the order in which it is looked for. -/
inductive Requirement
  | mapping
  | version
  | versionText
  | versionThree
  | info
  | paths
deriving DecidableEq

namespace Requirement

def IsMet (document : Value) : Requirement → Prop
  | mapping => ∃ entries, document.entries? = some entries
  | version => ∃ v, fieldOf? document "openapi" = some v ∧ ¬ IsBlank v
  | versionText => ∃ t, fieldOf? document "openapi" = some (.text t)
  | versionThree => ∃ t, fieldOf? document "openapi" = some (.text t) ∧ t.startsWith "3." = true
  | info => ∃ v, fieldOf? document "info" = some v ∧ v ≠ .null
  | paths => ∃ v, fieldOf? document "paths" = some v ∧ v ≠ .null

structure FailsFirst (document : Value) (r : Requirement) : Prop where
  fails : ¬ r.IsMet document
  earlier : ∀ q : Requirement, q.ctorIdx < r.ctorIdx → q.IsMet document

def phrase : Requirement → Text
  | mapping => "expected a mapping at the top level"
  | version => "missing required top-level field 'openapi'"
  | versionText => "'openapi' field must be a string"
  | versionThree => "OpenAPI v3.x is required"
  | info => "missing required top-level field 'info'"
  | paths => "missing required top-level field 'paths'"

end Requirement

def Unsound.requirement : Unsound → Requirement
  | .notMapping _ => .mapping
  | .noVersion _ => .version
  | .versionKind _ => .versionText
  | .versionTwo _ | .otherVersion _ => .versionThree
  | .noInfo => .info
  | .noPaths => .paths

theorem Unsound.phrase_infix_message (u : Unsound) : u.requirement.phrase <:+: u.message := by
  refine List.IsInfix.trans ?_ (List.suffix_append _ u.reason).isInfix
  cases u with
  | notMapping kind =>
    rw [requirement, reason, List.append_assoc]
    exact List.infix_append_of_infix_left (List.IsPrefix.isInfix (by decide +kernel))
  | noVersion swagger =>
    rw [requirement]
    exact List.infix_append_of_infix_left (List.IsPrefix.isInfix (by decide +kernel))
  | versionKind kind =>
    rw [requirement, reason, List.append_assoc]
    exact List.infix_append_of_infix_left (List.IsPrefix.isInfix (by decide +kernel))
  | versionTwo version =>
    rw [requirement, reason]
    exact List.infix_append_of_infix_right ⟨Text.ofString "', but ", Text.ofString ".", rfl⟩
  | otherVersion version =>
    rw [requirement, reason]
    exact List.infix_append_of_infix_right ⟨Text.ofString "'. ", Text.ofString ".", rfl⟩
  | noInfo | noPaths => exact List.IsPrefix.isInfix (by decide +kernel)

def faultOf [Host] (document : Value) : Requirement → Except Value.Fault Unsound
  | .mapping => .ok (.notMapping (if document.isNull then none else some document.kind))
  | .version =>
    match fieldOf? document "swagger" with
    | none => .ok (.noVersion none)
    | some v => (fun t => .noVersion (some t)) <$> v.display?
  | .versionText => .ok (.versionKind (((fieldOf? document "openapi").map Value.kind).getD []))
  | .versionThree =>
    let version := ((fieldOf? document "openapi").bind Value.text?).getD []
    .ok (if version.startsWith "2" then .versionTwo version else .otherVersion version)
  | .info => .ok .noInfo
  | .paths => .ok .noPaths

variable {document other : Value} {entries : List (Scalar × Value)} {name version : Text}
  {r : Requirement}

theorem isNoVersion_some_iff {v : Value} : isNoVersion (some v) = true ↔ IsBlank v := by
  constructor
  · intro blank
    cases v with
    | scalar s =>
      cases s with
      | null => exact .null
      | bool b =>
        obtain rfl : b = false := by simpa [isNoVersion, Scalar.isNothing] using blank
        exact .bool
      | int i =>
        obtain rfl : i = 0 := by simpa [isNoVersion, Scalar.isNothing] using blank
        exact .int
      | float x => exact .float (by simpa [isNoVersion, Scalar.isNothing] using blank)
      | text t =>
        obtain rfl : t = [] := by simpa [isNoVersion, Scalar.isNothing] using blank
        exact .text
      | bytes | date | moment => cases blank
    | _ => cases blank
  · intro blank
    cases blank with
    | float zero => simp [isNoVersion, Scalar.isNothing, zero]
    | _ => rfl

theorem isGiven_iff : isGiven entries name = true
    ↔ ∃ v, Value.find? (.text name) entries = some v ∧ v ≠ .null := by
  unfold isGiven
  cases Value.find? (.text name) entries with
  | none => simp
  | some v =>
    cases v with
    | scalar s => cases s <;> simp [Value.isNull, Value.null]
    | _ => simp [Value.isNull, Value.null]

theorem fieldOf?_of_mapping (mapping : document.entries? = some entries) (name : Text) :
    fieldOf? document name = Value.find? (.text name) entries := by
  rw [fieldOf?, mapping]
  rfl

section
variable (mapping : document.entries? = some entries)
include mapping

theorem check_of_noVersion [Host]
    (missing : isNoVersion (Value.find? (.text "openapi") entries) = true) :
    check document = .error <$> noVersion entries := by
  simp only [check, mapping]
  split
  · rename_i version found
    rw [found] at missing
    rw [if_pos (by simpa [isNoVersion, Scalar.isNothing] using missing)]
  · rw [if_pos missing]

theorem check_of_versionKind [Host] {v : Value}
    (found : Value.find? (.text "openapi") entries = some v) (given : ¬ IsBlank v)
    (noText : ∀ t, v ≠ .text t) :
    check document = .ok (.error (.versionKind v.kind)) := by
  have counts : isNoVersion (some v) = false :=
    Bool.eq_false_iff.mpr fun blank => given (isNoVersion_some_iff.mp blank)
  simp only [check, mapping, found]
  split
  · rename_i version same
    exact absurd (Option.some.inj same) (noText version)
  · rw [counts]
    rfl

theorem check_of_otherVersion [Host]
    (found : Value.find? (.text "openapi") entries = some (.text version))
    (nonempty : version ≠ []) (isOther : ¬ version.startsWith "3." = true) :
    check document = .ok (.error
      (if version.startsWith "2" then .versionTwo version else .otherVersion version)) := by
  have filled : version.isEmpty = false := by simpa using nonempty
  have fault : versionFault version
      = some (if version.startsWith "2" then .versionTwo version else .otherVersion version) := by
    rw [versionFault, if_neg isOther]
    split <;> rfl
  simp only [check, mapping, found, Value.text, filled, fault]
  rfl

theorem check_of_three [Host]
    (found : Value.find? (.text "openapi") entries = some (.text version))
    (three : version.startsWith "3." = true) :
    check document = if isGiven entries "info" = false then .ok (.error .noInfo)
      else if isGiven entries "paths" = false then .ok (.error .noPaths)
      else .ok (.ok version) := by
  have filled : version.isEmpty = false := by
    cases version with
    | nil => cases three
    | cons c rest => rfl
  simp [check, mapping, found, Value.text, filled, versionFault_eq_none_iff.mpr three]

theorem isMet_info_iff : Requirement.info.IsMet document ↔ isGiven entries "info" = true := by
  rw [isGiven_iff, Requirement.IsMet, fieldOf?_of_mapping mapping]

theorem isMet_paths_iff : Requirement.paths.IsMet document ↔ isGiven entries "paths" = true := by
  rw [isGiven_iff, Requirement.IsMet, fieldOf?_of_mapping mapping]

end

/-- The first requirement that fails says what the fault is. -/
theorem check_of_failsFirst [Host] (first : r.FailsFirst document) :
    check document = .error <$> faultOf document r := by
  obtain ⟨fails, earlier⟩ := first
  cases mapping : document.entries? with
  | none =>
    obtain rfl : r = .mapping := by
      by_contra later
      obtain ⟨entries, found⟩ : Requirement.mapping.IsMet document := by
        refine earlier .mapping ?_
        cases r <;> first | decide | exact absurd rfl later
      cases mapping.symm.trans found
    simp [check, mapping, faultOf]
  | some entries =>
    have field := fieldOf?_of_mapping mapping
    cases r with
    | mapping => exact absurd ⟨entries, mapping⟩ fails
    | version =>
      have missing : isNoVersion (Value.find? (.text "openapi") entries) = true := by
        rw [← field]
        cases found : fieldOf? document "openapi" with
        | none => rfl
        | some v => exact isNoVersion_some_iff.mpr (by_contra fun filled => fails ⟨v, found, filled⟩)
      rewrite [check_of_noVersion mapping missing, noVersion, faultOf, field]
      rfl
    | versionText =>
      obtain ⟨v, found, filled⟩ := earlier .version (by decide)
      have noText (t : Text) : v ≠ .text t := by
        rintro rfl
        exact fails ⟨t, found⟩
      rw [faultOf, found, check_of_versionKind mapping (field _ ▸ found) filled noText]
      rfl
    | versionThree =>
      obtain ⟨t, found⟩ := earlier .versionText (by decide)
      have nonempty : t ≠ [] := by
        obtain ⟨v, told, filled⟩ := earlier .version (by decide)
        rintro rfl
        cases found.symm.trans told
        exact filled .text
      rw [check_of_otherVersion mapping (field _ ▸ found) nonempty
        fun three => fails ⟨t, found, three⟩, faultOf, found]
      rfl
    | info =>
      obtain ⟨t, found, three⟩ := earlier .versionThree (by decide)
      have absent := Bool.eq_false_iff.mpr fun given => fails ((isMet_info_iff mapping).mpr given)
      rw [check_of_three mapping (field _ ▸ found) three, if_pos absent]
      rfl
    | paths =>
      obtain ⟨t, found, three⟩ := earlier .versionThree (by decide)
      have info := (isMet_info_iff mapping).mp (earlier .info (by decide))
      have absent := Bool.eq_false_iff.mpr fun given => fails ((isMet_paths_iff mapping).mpr given)
      rw [check_of_three mapping (field _ ▸ found) three, if_neg (by simp [info]), if_pos absent]
      rfl

/-- What is sound: a mapping whose version is a text that starts with `3.`, with the two fields that
must not be null. -/
structure IsSound (document : Value) (version : Text) : Prop where
  mapping : ∃ entries, document.entries? = some entries
  openapi : fieldOf? document "openapi" = some (.text version)
  three : version.startsWith "3." = true
  info : ∃ v, fieldOf? document "info" = some v ∧ v ≠ .null
  paths : ∃ v, fieldOf? document "paths" = some v ∧ v ≠ .null

/-- The older version, where a document has one, has a text. -/
def HasShownSwagger [Host] (document : Value) : Prop :=
  ∀ v, fieldOf? document "swagger" = some v → ∃ t, v.display? = .ok t

theorem validate_eq_ok_iff_isSound [Host] :
    validate document = .ok version ↔ IsSound document version := by
  rw [validate_eq_ok_iff, check_eq_ok_iff]
  constructor
  · rintro ⟨entries, mapping, found, three, info, paths⟩
    exact ⟨⟨entries, mapping⟩, (fieldOf?_of_mapping mapping _).trans found, three,
      (isMet_info_iff mapping).mpr info, (isMet_paths_iff mapping).mpr paths⟩
  · rintro ⟨⟨entries, mapping⟩, found, three, info, paths⟩
    exact ⟨entries, mapping, (fieldOf?_of_mapping mapping _).symm.trans found, three,
      (isMet_info_iff mapping).mp info, (isMet_paths_iff mapping).mp paths⟩

/-- Of a document that is not sound some requirement is the first to fail. -/
theorem exists_failsFirst (unsound : ∀ version, ¬ IsSound document version) :
    ∃ r : Requirement, r.FailsFirst document := by
  have some_fails : ∃ r : Requirement, ¬ r.IsMet document := by
    by_contra! all
    obtain ⟨version, found, three⟩ := all .versionThree
    exact unsound version ⟨all .mapping, found, three, all .info, all .paths⟩
  obtain ⟨r, fails, least⟩ :=
    WellFounded.has_min (measure Requirement.ctorIdx).wf {r | ¬ r.IsMet document} some_fails
  exact ⟨r, fails, fun q sooner => by_contra fun missed => least q missed sooner⟩

theorem requirement_of_faultOf [Host] {u : Unsound} (fault : faultOf document r = .ok u) :
    u.requirement = r := by
  cases r with
  | version =>
    rw [faultOf] at fault
    split at fault
    · cases fault
      rfl
    · obtain ⟨t, -, rfl⟩ := map_eq_ok_iff.mp fault
      rfl
  | versionThree =>
    rw [faultOf] at fault
    cases fault
    split <;> rfl
  | _ =>
    cases fault
    rfl

/-- Only the older version can stand in the way of telling a fault. -/
theorem exists_faultOf [Host] (shown : HasShownSwagger document) (r : Requirement) :
    ∃ u, faultOf document r = .ok u := by
  cases r with
  | version =>
    rw [faultOf]
    split
    · exact ⟨_, rfl⟩
    · rename_i v found
      obtain ⟨t, text⟩ := shown v found
      exact ⟨.noVersion (some t), by rw [text]; rfl⟩
  | _ => exact ⟨_, rfl⟩

/-- Past the first requirement a fault depends on the two versions only. -/
theorem faultOf_congr [Host] (notFirst : r ≠ .mapping)
    (openapi : fieldOf? other "openapi" = fieldOf? document "openapi")
    (swagger : fieldOf? other "swagger" = fieldOf? document "swagger") :
    faultOf other r = faultOf document r := by
  cases r with
  | mapping => exact absurd rfl notFirst
  | _ => simp only [faultOf, openapi, swagger]

/-- Exactly the sound documents are valid, with their version. Any other document is an invalid
description, by the first requirement that it fails and in words that name that one; and of two
mappings that fail at the same one, with the same versions under either key, the same is told. -/
theorem first_requirement_decides [Host] (document : Value) :
    (∀ version, validate document = .ok version ↔ IsSound document version)
      ∧ ((∀ version, ¬ IsSound document version) → HasShownSwagger document →
        ∃ r u, r.FailsFirst document ∧ validate document = .error (.lint (.unsound u))
          ∧ u.requirement = r ∧ r.phrase <:+: (LintError.unsound u).message
          ∧ (LintError.unsound u).kind = .invalidSpec)
      ∧ ∀ (r : Requirement) (other : Value), r.FailsFirst document → r.FailsFirst other →
        r ≠ .mapping → fieldOf? other "openapi" = fieldOf? document "openapi" →
        fieldOf? other "swagger" = fieldOf? document "swagger" →
        validate other = validate document := by
  refine ⟨fun version => validate_eq_ok_iff_isSound, fun unsound shown => ?_,
    fun r other here there notFirst openapi swagger => ?_⟩
  · obtain ⟨r, first⟩ := exists_failsFirst unsound
    obtain ⟨u, fault⟩ := exists_faultOf shown r
    obtain rfl := requirement_of_faultOf fault
    refine ⟨u.requirement, u, first, ?_, rfl, u.phrase_infix_message, rfl⟩
    rw [validate, check_of_failsFirst first, fault]
    rfl
  · rw [validate, validate, check_of_failsFirst here, check_of_failsFirst there,
      faultOf_congr notFirst openapi swagger]

def swaggerDocument : Value := .map [(.text "swagger", .text "2.0")]

def titledSwaggerDocument : Value := .map [(.text "info", .map []), (.text "swagger", .text "2.0")]

theorem swaggerDocument_first_requirement_decides :
    (∀ version, ¬ IsSound swaggerDocument version) ∧ HasShownSwagger swaggerDocument
      ∧ Requirement.version.FailsFirst swaggerDocument
      ∧ Requirement.version.FailsFirst titledSwaggerDocument
      ∧ (∃ r u, r.FailsFirst swaggerDocument
        ∧ validate swaggerDocument = .error (.lint (.unsound u)) ∧ u.requirement = r
        ∧ r.phrase <:+: (LintError.unsound u).message ∧ (LintError.unsound u).kind = .invalidSpec)
      ∧ validate titledSwaggerDocument = validate swaggerDocument := by
  have here : Requirement.version.FailsFirst swaggerDocument := by
    refine ⟨fun ⟨v, found, _⟩ => (by cases found), fun q sooner => ?_⟩
    cases q with
    | mapping => exact ⟨_, rfl⟩
    | _ => exact absurd sooner (by decide)
  have there : Requirement.version.FailsFirst titledSwaggerDocument := by
    refine ⟨fun ⟨v, found, _⟩ => (by cases found), fun q sooner => ?_⟩
    cases q with
    | mapping => exact ⟨_, rfl⟩
    | _ => exact absurd sooner (by decide)
  have unsound (version : Text) : ¬ IsSound swaggerDocument version := fun sound => by
    cases sound.openapi
  have shown : HasShownSwagger swaggerDocument := fun v found => by
    cases found
    exact ⟨_, rfl⟩
  have decided := first_requirement_decides swaggerDocument
  exact ⟨unsound, shown, here, there, decided.2.1 unsound shown,
    decided.2.2 .version titledSwaggerDocument here there (by decide) rfl rfl⟩

end ExposureLint.Spec
