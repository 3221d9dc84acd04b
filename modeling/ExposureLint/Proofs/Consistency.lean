import Mathlib
import ExposureLint.Proofs.FindingSource
import ExposureLint.Proofs.Toleration

/-!
What holds of every report that is returned. Its summary, its verdict and its counts of routes are
stored or computed apart from each other, and they are all those of its operations and findings. The
report on a project names the file that describes it, and tells the version that was validated.
-/
namespace ExposureLint

theorem Text.ofInt_ne_nil (i : Int) : Text.ofInt i ≠ [] := by
  cases i with
  | ofNat n => exact (isDigits_ofNat n).1
  | negSucc n => exact List.append_ne_nil_of_left_ne_nil (by decide) _

theorem Binary64.Decimal.text_ne_nil (d : Decimal) : d.text ≠ [] := by
  unfold text
  simp only
  split
  · split
    · simp [Text.ofString]
    · split
      · simp [Text.ofString]
      · simp [Text.ofString]
  · refine List.append_ne_nil_of_left_ne_nil (List.append_ne_nil_of_right_ne_nil _ ?_) _
    split <;> decide

theorem Binary64.text_ne_nil (x : Binary64) : x.text ≠ [] := by
  cases x with
  | nan _ => exact List.cons_ne_nil _ _
  | infinite negative => cases negative <;> decide
  | finite negative m e =>
    refine List.append_ne_nil_of_right_ne_nil _ ?_
    split
    · decide
    · exact Decimal.text_ne_nil _

theorem Date.text_ne_nil (d : Date) : d.text ≠ [] := by
  simp [Date.text, Text.ofString]

theorem Moment.text_ne_nil (m : Moment) : m.text ≠ [] := by
  simp [Moment.text, Moment.textWith, Text.ofString]

theorem Scalar.quoted?_ne_nil {s : Scalar} {t : Text} (written : s.quoted? = .ok t) : t ≠ [] := by
  cases s with
  | int i =>
    rw [quoted?_int] at written
    obtain ⟨-, rfl⟩ := Numeral.ofInt?_eq_ok_iff.mp written
    exact Text.ofInt_ne_nil i
  | null =>
    cases written
    decide
  | bool b =>
    cases written
    cases b <;> decide
  | float x =>
    cases written
    exact x.text_ne_nil
  | text t =>
    cases written
    exact List.cons_ne_nil _ _
  | bytes content =>
    cases written
    simp [quotedBytes]
  | date d =>
    cases written
    simp [Date.quoted, Text.ofString]
  | moment m =>
    cases written
    simp [Moment.quoted, Text.ofString]

namespace Value

theorem cutText_ne_nil (v : Value) : cutText v ≠ [] := by
  match v with
  | .labelled _ body => exact cutText_ne_nil body
  | .map _ | .pair _ _ | .scalar _ | .list _ | .set _ | .ref _ => exact List.cons_ne_nil _ _

theorem bracedText_ne_nil (members : List Text) : bracedText members ≠ [] := by
  unfold bracedText
  split
  · decide
  · exact List.cons_ne_nil _ _

/-- Inside containers that are told apart by texts, every value has a text that is not empty. -/
theorem quotedWithin_ne_nil {around : Around} (cuts : ∀ cut ∈ around, cut.2 ≠ []) {room : Nat}
    {v : Value} {t : Text} (written : quotedWithin around room v = .ok t) : t ≠ [] := by
  have known {n : Nat} {cut : Text} (found : around.lookup n = some cut) : cut ≠ [] := by
    obtain ⟨before, after, shape, -⟩ := List.lookup_eq_some_iff.mp found
    exact cuts (n, cut) (by simp [shape])
  match v with
  | .scalar s => exact Scalar.quoted?_ne_nil (mapError_eq_ok_iff.mp written)
  | .list items =>
    obtain ⟨rest, told⟩ := told_of_inside written
    obtain ⟨parts, -, made⟩ := bind_eq_ok_iff.mp told
    cases made
    exact List.cons_ne_nil _ _
  | .pair first second =>
    obtain ⟨rest, told⟩ := told_of_inside written
    obtain ⟨a, -, more⟩ := bind_eq_ok_iff.mp told
    obtain ⟨b, -, made⟩ := bind_eq_ok_iff.mp more
    cases made
    exact List.cons_ne_nil _ _
  | .map entries =>
    obtain ⟨rest, told⟩ := told_of_inside written
    obtain ⟨parts, -, made⟩ := bind_eq_ok_iff.mp told
    cases made
    exact List.cons_ne_nil _ _
  | .set members =>
    obtain ⟨rest, told⟩ := told_of_inside written
    obtain ⟨texts, -, rfl⟩ := map_eq_ok_iff.mp (mapError_eq_ok_iff.mp told)
    exact bracedText_ne_nil texts
  | .labelled n body =>
    rw [quotedWithin] at written
    cases found : around.lookup n with
    | some cut =>
      rw [found] at written
      cases written
      exact known found
    | none =>
      rw [found] at written
      exact quotedWithin_ne_nil (List.forall_mem_cons.mpr ⟨cutText_ne_nil body, cuts⟩) written
  | .ref n =>
    cases written
    cases found : around.lookup n with
    | some cut => exact known found
    | none => decide

end Value

theorem Scalar.display?_ne_nil {s : Scalar} {t : Text} (something : s.isNothing = false)
    (shown : s.display? = .ok t) : t ≠ [] := by
  cases s with
  | text word =>
    rw [← Except.ok.inj shown]
    exact List.isEmpty_eq_false_iff.mp something
  | date d =>
    rw [← Except.ok.inj shown]
    exact d.text_ne_nil
  | moment m =>
    rw [← Except.ok.inj shown]
    exact m.text_ne_nil
  | _ =>
    simp only [display?] at shown
    exact quoted?_ne_nil shown

theorem Value.display?_ne_nil [Host] {v : Value} {t : Text} (something : v.isNothing = false)
    (shown : v.display? = .ok t) : t ≠ [] := by
  cases v with
  | scalar s => exact Scalar.display?_ne_nil something (mapError_eq_ok_iff.mp shown)
  | _ => exact quotedWithin_ne_nil (List.forall_mem_nil _) shown

namespace Spec
variable {document : Value} {version : Text}

theorem Declaration.Describes.reason_ne_nil [Host] {d : Declaration} {op : Operation} {t : Text}
    (describes : d.Describes document op) (kept : t ∈ op.reason) :
    t ≠ [] ∧ op.isPublic = true := by
  have told := describes.reason
  rw [Option.mem_def.mp kept] at told
  cases given : d.reason? with
  | none =>
    rw [given] at told
    cases told
  | some v =>
    rw [given] at told
    obtain ⟨text, shown, same⟩ := map_eq_ok_iff.mp told
    cases same
    unfold Declaration.reason? at given
    split at given
    · rename_i isPublic
      obtain ⟨-, something⟩ := Option.filter_eq_some_iff.mp given
      refine ⟨Value.display?_ne_nil ?_ shown, describes.isPublic.trans isPublic⟩
      simpa using something
    · cases given

theorem versionFault_eq_none_iff : versionFault version = none ↔ version.startsWith "3." = true := by
  unfold versionFault
  split
  · rename_i three
    exact iff_of_true rfl three
  · rename_i other
    refine iff_of_false ?_ other
    split <;> exact Option.some_ne_none _

/-- A document is sound when its version is a text of version 3 and two more fields are given. -/
theorem check_eq_ok_iff [Host] : check document = .ok (.ok version) ↔
    ∃ entries, document.entries? = some entries
      ∧ Value.find? (.text "openapi") entries = some (.text version)
      ∧ version.startsWith "3." = true
      ∧ isGiven entries "info" = true ∧ isGiven entries "paths" = true := by
  constructor
  · intro sound
    cases mapping : document.entries? with
    | none =>
      rw [check, mapping] at sound
      cases sound
    | some entries =>
      have unversioned : Except.error <$> noVersion entries ≠ .ok (.ok version) := fun same => by
        obtain ⟨u, -, made⟩ := map_eq_ok_iff.mp same
        cases made
      simp only [check, mapping] at sound
      split at sound
      · rename_i told found
        split at sound
        · exact absurd sound unversioned
        · split at sound
          · cases sound
          · rename_i three
            cases info : isGiven entries "info" with
            | false => simp [info] at sound
            | true =>
              cases paths : isGiven entries "paths" with
              | false => simp [info, paths] at sound
              | true =>
                simp only [info, paths] at sound
                cases sound
                exact ⟨entries, rfl, found, versionFault_eq_none_iff.mp three, info, paths⟩
      · split at sound
        · exact absurd sound unversioned
        · cases sound
  · rintro ⟨entries, mapping, found, three, info, paths⟩
    have nonempty : version.isEmpty = false := by
      cases version with
      | nil => cases three
      | cons c rest => rfl
    have faultless := versionFault_eq_none_iff.mpr three
    simp only [check, mapping, found, Value.text, nonempty, faultless, info, paths]
    rfl

theorem version_of_validate [Host] (validated : validate document = .ok version) :
    (fieldOf? document "openapi").bind Value.text? = some version
      ∧ version.startsWith "3." = true := by
  obtain ⟨entries, mapping, found, three, -, -⟩ :=
    check_eq_ok_iff.mp (validate_eq_ok_iff.mp validated)
  refine ⟨?_, three⟩
  rw [fieldOf?, mapping]
  exact congrArg (Option.bind · Value.text?) found

end Spec

theorem Summary.total_ofFindings (fs : List Finding) :
    (Summary.ofFindings fs).total = fs.length := by
  induction fs with
  | nil => rfl
  | cons f rest ih =>
    simp only [ofFindings, ofSeverities, total, List.map_cons, List.count_cons] at ih ⊢
    cases f.severity <;> simp <;> omega

namespace Report
variable {disk : Disk} {root : Text} {file : Path} {allowMissing : Bool} {r : Report}

/-- The fields of a report agree with its operations and findings. -/
structure IsConsistent (r : Report) : Prop where
  block : r.summary.block = r.findings.countP fun f => f.severity == .block
  warn : r.summary.warn = r.findings.countP fun f => f.severity == .warn
  total : r.summary.total = r.findings.length
  safe : r.safe = true ↔ r.summary.block = 0
  routes : r.protectedRoutes + r.publicRoutes = r.operations.length
  blocking : r.isBlocking false = true → r.isBlocking true = true
  strict : r.isBlocking true = true ↔ r.findings ≠ []
  reasons : ∀ op ∈ r.operations, ∀ t ∈ op.reason, t ≠ [] ∧ op.isPublic = true

theorem IsReturned.reason_ne_nil [Host] (returned : r.IsReturned) :
    ∀ op ∈ r.operations, ∀ t ∈ op.reason, t ≠ [] ∧ op.isPublic = true := by
  obtain rfl | ⟨specPath, document, made⟩ := returned.eq_skipped_or_built
  · exact List.forall_mem_nil _
  · obtain ⟨ops, listed, rfl⟩ := ofDocument_eq_ok_iff.mp made
    intro op there t kept
    obtain ⟨d, describes⟩ := Spec.exists_describes listed there
    exact describes.reason_ne_nil kept

theorem IsReturned.isConsistent [Host] (returned : r.IsReturned) : r.IsConsistent := by
  have faithful := returned.isFaithful
  have counts : r.summary = .ofFindings r.findings := faithful.summary
  have strict : r.isBlocking true = true ↔ r.findings ≠ [] := by simp [isBlocking]
  constructor
  · rw [counts]
    exact List.countP_map
  · rw [counts]
    exact List.countP_map
  · rw [counts]
    exact Summary.total_ofFindings r.findings
  · rw [faithful.block_eq_zero_iff, faithful.safe]
    simp [isSafe]
  · rw [protectedRoutes, publicRoutes, List.length_eq_countP_add_countP isProtected]
    simp
  · intro stops
    exact strict.mpr (faithful.findings_ne_nil_of_blocking stops)
  · exact strict
  · exact returned.reason_ne_nil

/-- A report on nothing, for a project without a description. -/
structure IsSkipped (r : Report) : Prop where
  skipped : r.skipped = true
  operations : r.operations = []
  findings : r.findings = []
  safe : r.safe = true
  specPath : r.specPath = none
  version : r.version = none

/-- A report on the description of a project: a file under one of the names in the resolved root,
with a document that was validated. -/
structure IsOn [Host] (disk : Disk) (root : Text) (file : Path) (r : Report) : Prop where
  complete : r.skipped = false
  specPath : r.specPath = some file
  named : ∃ place, disk.resolve (Path.ofText root) = .ok place ∧ file ∈ specNames.map place.child
  version : ∃ document version, Spec.parse disk file = .ok document
    ∧ Spec.validate document = .ok version ∧ r.version = some version
    ∧ version.startsWith "3." = true

theorem isSkipped_or_isOn [Host] (made : (ofProject disk root allowMissing).outcome.1 = .ok r) :
    r.IsSkipped ∨ ∃ file, r.IsOn disk root file := by
  have arises := (ofProject_leads disk root allowMissing).outcome
  rw [made] at arises
  cases arises with
  | skipped => exact .inl ⟨rfl, rfl, rfl, rfl, rfl, rfl⟩
  | @built file document version _ there named holds sound built =>
    refine .inr ⟨file, ?_⟩
    obtain ⟨format, supported⟩ := Spec.exists_format named
    have parsed : Spec.parse disk file = .ok document := by
      rw [Spec.document?_eq_parse disk supported] at holds
      exact toOption_eq_some_iff.mp holds
    have validated := Spec.validate_eq_ok_iff.mpr sound
    have resolved : disk.resolve (Path.ofText root) = .ok (disk.projectAt root) := by
      cases discovered : (Spec.discover disk root).outcome.1 with
      | error e => cases made.symm.trans (ofProject_of_error discovered)
      | ok found => exact (Spec.discover_eq_ok_iff.mp discovered).resolved
    obtain ⟨told, three⟩ := Spec.version_of_validate validated
    obtain ⟨ops, -, rfl⟩ := ofDocument_eq_ok_iff.mp built
    constructor
    · rfl
    · rfl
    · exact ⟨_, resolved, List.mem_of_find?_eq_some named⟩
    · exact ⟨document, version, parsed, validated, told, three⟩

/-- Every report that is returned is consistent. The report on a project is the skipped one, or it
is on the description of the project. -/
theorem returned_isConsistent [Host] :
    (∀ specPath document r, (ofDocument specPath document).outcome.1 = .ok r → r.IsConsistent)
      ∧ ∀ disk root allowMissing r, (ofProject disk root allowMissing).outcome.1 = .ok r →
        r.IsConsistent ∧ (r.IsSkipped ∨ ∃ file, r.IsOn disk root file) := by
  refine ⟨fun specPath document r made => ?_, fun disk root allowMissing r made => ?_⟩
  · exact IsReturned.isConsistent (.inr ⟨specPath, document, made⟩)
  · exact ⟨IsReturned.isConsistent (.inl ⟨disk, root, allowMissing, made⟩), isSkipped_or_isOn made⟩

theorem open_write_isConsistent :
    Cli.openWriteReport.IsConsistent
      ∧ (Cli.openWriteReport.IsSkipped
        ∨ ∃ file, Cli.openWriteReport.IsOn Cli.openWriteDisk "." file)
      ∧ (ofOperations none (some "3.0.0") Spec.sampleOperations).IsConsistent := by
  have built : (ofDocument none Spec.sampleDocument).outcome.1
      = .ok (ofOperations none (some "3.0.0") Spec.sampleOperations) := rfl
  obtain ⟨consistent, onProject⟩ :=
    returned_isConsistent.2 Cli.openWriteDisk "." false _ Cli.ofProject_openWriteDisk
  exact ⟨consistent, onProject, returned_isConsistent.1 none Spec.sampleDocument _ built⟩

end Report
end ExposureLint
