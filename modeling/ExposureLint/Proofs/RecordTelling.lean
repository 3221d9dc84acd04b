import Mathlib
import ExposureLint.Proofs.Channels
import ExposureLint.Proofs.JsonRoundTrip

/-!
A report told as a record can be read again. What is printed is one JSON text on a line of its own,
and reading it gives the record back. A report is told so unless a path, a version, the name of a
scheme or a reason has half of a surrogate pair in it; then nothing is printed at all.
-/
namespace ExposureLint

/-! ### Records have distinct keys -/

theorem Operation.toRecord_isKeyed (op : Operation) : op.toRecord.isKeyed = true := by
  have schemes : Value.itemsKeyed (op.security.map Value.text) = true := by
    rw [Value.itemsKeyed_iff, List.forall_mem_map]
    exact fun _ _ => rfl
  have reason : ((op.reason.map Value.text).getD .null).isKeyed = true := by
    cases op.reason <;> rfl
  simp only [toRecord, Value.isKeyed, Value.entriesKeyed, schemes, reason]
  rfl

theorem Finding.toRecord_isKeyed (f : Finding) : f.toRecord.isKeyed = true := rfl

theorem Report.toValue_isKeyed (strict : Bool) (r : Report) :
    (r.toValue strict).isKeyed = true := by
  have operations : Value.itemsKeyed (r.operations.map Operation.toRecord) = true := by
    rw [Value.itemsKeyed_iff, List.forall_mem_map]
    exact fun op _ => op.toRecord_isKeyed
  have findings : Value.itemsKeyed (r.findings.map Finding.toRecord) = true := by
    rw [Value.itemsKeyed_iff, List.forall_mem_map]
    exact fun f _ => f.toRecord_isKeyed
  have path : ((r.specPath.map fun p => Value.text p.text).getD .null).isKeyed = true := by
    cases r.specPath <;> rfl
  have version : ((r.version.map Value.text).getD .null).isKeyed = true := by
    cases r.version <;> rfl
  simp only [toValue, toEntries, List.cons_append, List.nil_append, Value.isKeyed,
    Value.entriesKeyed, operations, findings, path, version]
  rfl

/-! ### Telling one value -/

namespace Act
variable {s : Session} {p : Presentation} {v : Value} {text : Text}

theorem run_sayAll_value (installed : s.presentation = some p) (v : Value) :
    (sayAll [.value v]).run s
      = (ofExcept (Presentation.valueLine v) >>= fun t => put (.line t)).run s := by
  rw [Cli.sayAll_single, say, run_bind_ok (run_current installed), run_bind_ok run_get]
  show (ofExcept (p.pieces (.value v)) >>= fun pieces => pieces.forM put).run s = _
  cases made : Presentation.valueLine v with
  | error f =>
    have none : p.pieces (.value v) = .error f := by
      rw [Presentation.pieces, made]
      rfl
    rw [none, run_bind_error (run_ofExcept _), run_bind_error (run_ofExcept _)]
  | ok t =>
    have one : p.pieces (.value v) = .ok [.line t] := by
      rw [Presentation.pieces, made]
      rfl
    rw [one, run_bind_ok (run_ofExcept _), run_bind_ok (run_ofExcept _), List.forM]
    exact congrArg (run · s) bind_pure_unit

theorem run_sayAll_value_ok (installed : s.presentation = some p)
    (written : Json.print .report v = .ok text) (clean : text.isWellFormed = true) :
    (sayAll [.value v]).run s = (.ok (), s.wrote ⟨text.ended, []⟩) := by
  have line : Presentation.valueLine v = .ok text := mapError_eq_ok_iff.mpr written
  have writable : (Piece.line text).isWritable = true := by
    rw [Presentation.isWritable_line, clean]
  rw [run_sayAll_value installed, line, run_bind_ok (run_ofExcept _), run_put writable]
  rfl

theorem run_sayAll_value_error (installed : s.presentation = some p)
    (untold : ¬ Json.IsTold (Json.print .report v)) :
    ∃ m, (sayAll [.value v]).run s = (.error (.mishap m), s) := by
  rw [run_sayAll_value installed]
  cases made : Json.print .report v with
  | error fault =>
    have line : Presentation.valueLine v = .error (.mishap (.json fault)) := by
      rw [Presentation.valueLine, made]
      rfl
    exact ⟨_, by rw [line, run_bind_error (run_ofExcept _)]⟩
  | ok text =>
    have line : Presentation.valueLine v = .ok text := mapError_eq_ok_iff.mpr made
    cases fault : Utf8.unwritable? text with
    | none => exact absurd ⟨text, made, (Utf8.unwritable?_eq_none_iff text).mp fault⟩ untold
    | some place =>
      refine ⟨.unwritable place, ?_⟩
      rw [line, run_bind_ok (run_ofExcept _), put, fault]
      rfl

end Act

/-! ### Values that can be told -/

namespace Value

def HasForm (v : Value) : Prop := ∀ s ∈ v.scalars, s.HasForm

@[simp] theorem hasForm_text {t : Text} : (text t).HasForm ↔ t.isWellFormed = true :=
  List.forall_mem_singleton

@[simp] theorem hasForm_bool (b : Bool) : (bool b).HasForm :=
  List.forall_mem_singleton.mpr trivial

@[simp] theorem hasForm_count {n : Nat} :
    (scalar (.int n)).HasForm ↔ n < tenTo Numeral.digitLimit :=
  List.forall_mem_singleton.trans Scalar.isWritable_int

@[simp] theorem hasForm_list {items : List Value} :
    (list items).HasForm ↔ ∀ x ∈ items, x.HasForm := by
  rw [HasForm, scalars, scalarsOfItems_eq]
  exact List.forall_mem_flatMap

@[simp] theorem hasForm_map {entries : List (Scalar × Value)} :
    (map entries).HasForm ↔ ∀ e ∈ entries, e.1.HasForm ∧ e.2.HasForm := by
  rw [HasForm, scalars, scalarsOfEntries_eq, List.forall_mem_flatMap]
  exact forall₂_congr fun _ _ => List.forall_mem_cons

@[simp] theorem hasForm_option {α : Type} {o : Option α} {f : α → Value} :
    ((o.map f).getD null).HasForm ↔ ∀ a ∈ o, (f a).HasForm := by
  cases o with
  | none => exact iff_of_true (List.forall_mem_singleton.mpr trivial) fun a none => by cases none
  | some a => simp

theorem isTold_iff {v : Value} (simple : v.isSimple = true) :
    Json.IsTold (Json.print .report v) ↔ v.HasForm :=
  Json.isTold_valueText [] 0 v simple

end Value

@[simp] theorem Scalar.hasForm_ofString (key : String) : (Scalar.text key).HasForm :=
  Text.isWellFormed_ofString key

/-! ### Reports that can be told -/

/-- An operation whose texts from the document are well formed. -/
@[mk_iff]
structure Operation.IsClean (op : Operation) : Prop where
  path : op.path.isWellFormed = true
  security : ∀ t ∈ op.security, t.isWellFormed = true
  reason : ∀ t ∈ op.reason, t.isWellFormed = true

/-- A report whose texts are well formed, and whose counts have texts. -/
structure Report.IsClean (r : Report) : Prop where
  specPath : ∀ file ∈ r.specPath, file.text.isWellFormed = true
  version : ∀ t ∈ r.version, t.isWellFormed = true
  operations : ∀ op ∈ r.operations, op.IsClean
  protectedRoutes : r.protectedRoutes < tenTo Numeral.digitLimit
  publicRoutes : r.publicRoutes < tenTo Numeral.digitLimit

theorem Operation.hasForm_toRecord {op : Operation} (verb : op.method.isWellFormed = true) :
    op.toRecord.HasForm ↔ op.IsClean := by
  have fields : op.toRecord.HasForm ↔ op.path.isWellFormed = true
      ∧ (∀ t ∈ op.security, t.isWellFormed = true) ∧ ∀ t ∈ op.reason, t.isWellFormed = true := by
    simp [toRecord, verb]
  rw [fields, isClean_iff]

theorem Rule.isWellFormed_message {op : Operation} (verb : op.method.isWellFormed = true)
    (path : op.path.isWellFormed = true) (rule : Rule) : (rule.message op).isWellFormed = true := by
  cases rule <;> simp [message, verb, path]

theorem Finding.hasForm_toRecord {op : Operation} {f : Finding} (found : f ∈ ofOperation op)
    (verb : op.method.isWellFormed = true) (path : op.path.isWellFormed = true) :
    f.toRecord.HasForm := by
  obtain ⟨rule, -, checked⟩ := List.mem_filterMap.mp found
  rw [Rule.check] at checked
  split at checked
  · cases checked
    have message := rule.isWellFormed_message verb path
    cases rule <;> simp [toRecord, Severity.name, Rule.severity, Rule.id, verb, path, message]
  · cases checked

theorem Rule.isProtected_of_isBroken {op : Operation} {rule : Rule}
    (broken : rule.isBroken op = true) : Report.isProtected op = false := by
  cases rule with
  | publicWithoutReason =>
    obtain ⟨isPublic, -⟩ := Bool.and_eq_true_iff.mp broken
    simp [Report.isProtected, isPublic]
  | _ =>
    simp only [isBroken, Bool.and_eq_true, Bool.not_eq_true', Operation.isAuthenticated,
      Bool.or_eq_false_iff] at broken
    simp [Report.isProtected, broken]

theorem Spec.exists_describes [Host] {document : Value} {ops : List Operation} {op : Operation}
    (listed : Spec.normalize document = .ok ops) (there : op ∈ ops) :
    ∃ d : Declaration, d.Describes document op := by
  obtain ⟨-, -, records, described, rfl⟩ := Spec.normalize_eq_ok_iff.mp listed
  have record : op ∈ records := (sortBy_perm operationKey records).mem_iff.mp there
  obtain ⟨d, -, describes⟩ := Multiset.exists_mem_of_rel_of_mem
    (Multiset.rel_flip.mpr (rel_of_forall₂ described)) (Multiset.mem_coe.mpr record)
  exact ⟨d, describes⟩

/-- The method of a listed operation is one of the known ones, whatever stands in the document. -/
theorem Spec.isWellFormed_method [Host] {document : Value} {ops : List Operation}
    (listed : Spec.normalize document = .ok ops) : ∀ op ∈ ops, op.method.isWellFormed = true := by
  intro op there
  obtain ⟨d, describes⟩ := exists_describes listed there
  rw [describes.method_eq_verb]
  cases d.method <;> rfl

namespace Report
variable {r : Report} {strict : Bool}

theorem countP_le_publicRoutes {broken : Operation → Bool}
    (isPublic : ∀ op, broken op = true → isProtected op = false) :
    r.operations.countP broken ≤ r.publicRoutes := by
  refine List.countP_mono_left fun op _ here => ?_
  rw [isPublic op here]
  rfl

/-- Findings of one severity are at most as many as the public routes. -/
theorem summary_le (faithful : r.IsFaithful)
    (found : r.findings = Finding.ofOperations r.operations) :
    r.summary.block ≤ r.publicRoutes ∧ r.summary.warn ≤ r.publicRoutes := by
  have counts : r.summary = ⟨((Finding.ofOperations r.operations).map (·.severity)).count .block,
      ((Finding.ofOperations r.operations).map (·.severity)).count .warn⟩ := by
    rw [faithful.summary, found]
    rfl
  rw [counts, Finding.count_severity_ofOperations Finding.count_block_ofOperation,
    Finding.count_severity_ofOperations Finding.count_warn_ofOperation]
  constructor
  · exact countP_le_publicRoutes fun op broken => Rule.isProtected_of_isBroken broken
  · refine countP_le_publicRoutes fun op broken => ?_
    obtain unexplained | read := Bool.or_eq_true_iff.mp broken
    · exact Rule.isProtected_of_isBroken unexplained
    · exact Rule.isProtected_of_isBroken read

theorem hasForm_toValue : (r.toValue strict).HasForm
    ↔ (∀ file ∈ r.specPath, file.text.isWellFormed = true)
      ∧ (∀ t ∈ r.version, t.isWellFormed = true)
      ∧ (∀ op ∈ r.operations, op.toRecord.HasForm) ∧ (∀ f ∈ r.findings, f.toRecord.HasForm)
      ∧ (r.summary.block < tenTo Numeral.digitLimit ∧ r.summary.warn < tenTo Numeral.digitLimit)
      ∧ r.protectedRoutes < tenTo Numeral.digitLimit
      ∧ r.publicRoutes < tenTo Numeral.digitLimit := by
  simp [toValue, toEntries, Summary.toRecord]

/-- The findings and the summary can be told where the operations and their counts can. -/
theorem hasForm_iff_isClean (faithful : r.IsFaithful)
    (found : r.findings = Finding.ofOperations r.operations)
    (verbs : ∀ op ∈ r.operations, op.method.isWellFormed = true) :
    (r.toValue strict).HasForm ↔ r.IsClean := by
  rw [hasForm_toValue]
  constructor
  · rintro ⟨file, text, records, -, -, protectedRoutes, publicRoutes⟩
    refine ⟨file, text, fun op there => ?_, protectedRoutes, publicRoutes⟩
    exact (Operation.hasForm_toRecord (verbs op there)).mp (records op there)
  · intro clean
    obtain ⟨block, warn⟩ := summary_le faithful found
    have findings : ∀ f ∈ r.findings, f.toRecord.HasForm := by
      intro f there
      rw [found] at there
      have listed := (sortBy_perm Finding.sortKey _).mem_iff.mp there
      obtain ⟨op, among, here⟩ := List.mem_flatMap.mp listed
      exact Finding.hasForm_toRecord here (verbs op among) (clean.operations op among).path
    refine ⟨clean.specPath, clean.version, fun op there => ?_, findings,
      ⟨block.trans_lt clean.publicRoutes, warn.trans_lt clean.publicRoutes⟩,
      clean.protectedRoutes, clean.publicRoutes⟩
    exact (Operation.hasForm_toRecord (verbs op there)).mpr (clean.operations op there)

theorem IsReturned.findings_eq [Host] (returned : r.IsReturned) :
    r.findings = Finding.ofOperations r.operations
      ∧ ∀ op ∈ r.operations, op.method.isWellFormed = true := by
  obtain rfl | ⟨specPath, document, made⟩ := returned.eq_skipped_or_built
  · exact ⟨rfl, List.forall_mem_nil _⟩
  · obtain ⟨ops, listed, rfl⟩ := ofDocument_eq_ok_iff.mp made
    exact ⟨rfl, Spec.isWellFormed_method listed⟩

/-! ### The record of a report -/

/-- A telling of a report as a record: nothing beside the data, and as data one text on a line of
its own, which is read as the record again. -/
def TellsReadably (strict : Bool) (r : Report) (s : Session)
    (ended : Except Failure Unit × Session) : Prop :=
  ∃ text, ended = (.ok (), s.wrote ⟨text.ended, []⟩)
    ∧ Json.print .report (r.toValue strict) = .ok text ∧ Json.read text = .ok (r.toValue strict)

variable {p : Presentation} {s : Session}

theorem emissions_json (json : p.rendering = .json) :
    r.emissions p.rendering strict = [.value (r.toValue strict)] := by
  rw [emissions, json]
  rfl

/-- The record of a report is told, and can be read again, just when the texts that the report has
from the document and from the name of its file are well formed and its counts have texts. Otherwise
nothing is put on the streams, and nothing else is changed. -/
theorem tellsReadably_iff [Host] (strict : Bool) (returned : r.IsReturned)
    (json : p.rendering = .json) (installed : s.presentation = some p) :
    (r.TellsReadably strict s ((Act.sayAll (r.emissions p.rendering strict)).run s) ↔ r.IsClean)
      ∧ (¬ r.IsClean → ∃ m, (Act.sayAll (r.emissions p.rendering strict)).run s
          = (.error (.mishap m), s)) := by
  obtain ⟨found, verbs⟩ := returned.findings_eq
  have told : Json.IsTold (Json.print .report (r.toValue strict)) ↔ r.IsClean :=
    (Value.isTold_iff (r.toValue_isSimple strict)).trans
      (hasForm_iff_isClean returned.isFaithful found verbs)
  rw [emissions_json json, ← told]
  refine ⟨⟨?_, ?_⟩, Act.run_sayAll_value_error installed⟩
  · rintro ⟨text, ended, -⟩
    by_contra untold
    obtain ⟨m, failed⟩ := Act.run_sayAll_value_error installed untold
    cases failed.symm.trans ended
  · rintro ⟨text, written, clean⟩
    exact ⟨text, Act.run_sayAll_value_ok installed written clean, written,
      Json.read_print rfl (r.toValue_isSimple strict) (r.toValue_isKeyed strict) written⟩

def jsonPresentation : Presentation := { plainPresentation with rendering := .json }

/-- A document with quotes, backslashes, control characters and other alphabets in its texts. -/
def quotedDocument : Value := .map [
  (.text "openapi", .text "3.0.\"\\\x01"), (.text "info", .map []),
  (.text "paths", .map [(.text "/ü\"\\\n\t\x7f\x7bid\x7d😀", .map [
    (.text "put", .map [
      (.text "security", .list [.map [(.text "\\u0041\r", .list [])]]),
      (.text "x-public", .bool true), (.text "x-reason", .text "\"\x00\"")]),
    (.text "get", .map [])])])]

def quotedOperations : List Operation := [
  ⟨"GET", "/ü\"\\\n\t\x7f\x7bid\x7d😀", false, true, [], false, none⟩,
  ⟨"PUT", "/ü\"\\\n\t\x7f\x7bid\x7d😀", false, true, ["\\u0041\r"], true, some "\"\x00\""⟩]

def quotedReport : Report :=
  ofOperations (some (Path.ofText "é.json")) (some "3.0.\"\\\x01") quotedOperations

theorem quotedReport_isClean : quotedReport.IsClean := by
  have file : ∀ file ∈ quotedReport.specPath, file.text.isWellFormed = true := by decide +kernel
  have version : ∀ t ∈ quotedReport.version, t.isWellFormed = true := by decide +kernel
  have texts : ∀ op ∈ quotedReport.operations, op.path.isWellFormed = true
      ∧ (∀ t ∈ op.security, t.isWellFormed = true) ∧ ∀ t ∈ op.reason, t.isWellFormed = true := by
    decide +kernel
  constructor
  · exact file
  · exact version
  · exact fun op there => (op.isClean_iff).mpr (texts op there)
  · decide +kernel
  · decide +kernel

theorem quoted_tellsReadably :
    (quotedReport.IsReturned ∧ jsonPresentation.rendering = .json
        ∧ (freshSession jsonPresentation).presentation = some jsonPresentation)
      ∧ quotedReport.TellsReadably true (freshSession jsonPresentation)
        ((Act.sayAll (quotedReport.emissions jsonPresentation.rendering true)).run
          (freshSession jsonPresentation)) := by
  have built : (ofDocument (some (Path.ofText "é.json")) quotedDocument).outcome.1
      = .ok quotedReport := rfl
  have returned : quotedReport.IsReturned := .inr ⟨_, _, built⟩
  have tells := (tellsReadably_iff true returned rfl
    (rfl : (freshSession jsonPresentation).presentation = some jsonPresentation)).1
  exact ⟨⟨returned, rfl, rfl⟩, tells.mpr quotedReport_isClean⟩

/-- A document whose only scheme is named by half of a surrogate pair. -/
def loneSchemeDocument : Value := .map [
  (.text "openapi", .text "3.0.0"), (.text "info", .map []),
  (.text "paths", .map [(.text "/a", .map [(.text "get", .map [
    (.text "security", .list [.map [(.text [⟨0xD800, by decide⟩], .list [])]])])])])]

/-- The report on it is not told at all. -/
theorem lone_scheme_not_told :
    ∃ r, (ofDocument none loneSchemeDocument).outcome.1 = .ok r
      ∧ ¬ r.TellsReadably false (freshSession jsonPresentation)
        ((Act.sayAll (r.emissions .json false)).run (freshSession jsonPresentation))
      ∧ ((Act.sayAll (r.emissions .json false)).run (freshSession jsonPresentation)).2.streams
        = .empty := by
  have built : (ofDocument none loneSchemeDocument).outcome.1
      = .ok (ofOperations none (some "3.0.0")
        [⟨"GET", "/a", false, false, [[⟨0xD800, by decide⟩]], false, none⟩]) := rfl
  refine ⟨_, built, ?_⟩
  -- only whether the record has a form is computed, and not what telling it comes to
  generalize made : ofOperations none (some "3.0.0")
    [⟨"GET", "/a", false, false, [[⟨0xD800, by decide⟩]], false, none⟩] = r
  have formless : ¬ ∀ s ∈ (r.toValue false).scalars, s.HasForm := by
    rw [← made]
    decide +kernel
  have untold : ¬ Json.IsTold (Json.print .report (r.toValue false)) := fun told =>
    formless ((Value.isTold_iff (r.toValue_isSimple false)).mp told)
  obtain ⟨m, failed⟩ := Act.run_sayAll_value_error
    (rfl : (freshSession jsonPresentation).presentation = some jsonPresentation) untold
  have emissions : r.emissions .json false = [.value (r.toValue false)] :=
    emissions_json (p := jsonPresentation) rfl
  rw [emissions, failed]
  refine ⟨?_, rfl⟩
  rintro ⟨text, ended, -⟩
  cases ended

end Report

end ExposureLint
