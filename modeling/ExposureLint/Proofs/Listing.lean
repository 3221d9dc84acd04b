import Mathlib
import ExposureLint.Proofs.RecordTelling

/-!
The listing of a project as records. Where it is told it can be read again, one record for each
operation in their order; but a project without operations has no listing, not even an empty one,
and one with half of a surrogate pair in a text crashes.
-/
namespace ExposureLint

namespace Operation
variable {op : Operation}

def toListing (op : Operation) : Value := .map [
  (.text "Method", .text op.method),
  (.text "Path", .text op.path),
  (.text "Security", .text op.schemesCell),
  (.text "Public", .text (if op.isPublic then "yes" else [])),
  (.text "Reason", .text (op.reason.getD []))]

theorem table_toValue (ops : List Operation) :
    (table ops).toValue = .list (ops.map toListing) := by
  rw [Table.toValue]
  show Value.list ((ops.map row).map _) = _
  rw [List.map_map]
  rfl

theorem toListing_isKeyed (op : Operation) : op.toListing.isKeyed = true := rfl

theorem isWellFormed_schemesCell :
    op.schemesCell.isWellFormed = true ↔ ∀ t ∈ op.security, t.isWellFormed = true := by
  rw [← Text.isWellFormed_join ", " (Text.isWellFormed_ofString ", "), schemesCell]
  split
  · rename_i nothing
    rw [List.isEmpty_iff.mp nothing]
    exact iff_of_true (Text.isWellFormed_ofString "-") rfl
  · exact Iff.rfl

theorem hasForm_toListing (verb : op.method.isWellFormed = true) :
    op.toListing.HasForm ↔ op.IsClean := by
  have reason : (op.reason.getD []).isWellFormed = true
      ↔ ∀ t ∈ op.reason, t.isWellFormed = true := by
    cases op.reason <;> simp
  have isPublic : Text.isWellFormed (if op.isPublic then "yes" else []) = true := by
    cases op.isPublic <;> simp
  have fields : op.toListing.HasForm ↔ op.path.isWellFormed = true
      ∧ (∀ t ∈ op.security, t.isWellFormed = true) ∧ ∀ t ∈ op.reason, t.isWellFormed = true := by
    simp [toListing, verb, isPublic, isWellFormed_schemesCell, reason]
  rw [fields, isClean_iff]

theorem table_hasForm {ops : List Operation} (verbs : ∀ op ∈ ops, op.method.isWellFormed = true) :
    (table ops).toValue.HasForm ↔ ∀ op ∈ ops, op.IsClean := by
  rw [table_toValue, Value.hasForm_list, List.forall_mem_map]
  exact forall₂_congr fun op there => hasForm_toListing (verbs op there)

/-- What is written of a listing is read as its records again. -/
theorem read_table {ops : List Operation} {text : Text}
    (written : Json.print .report (table ops).toValue = .ok text) :
    Json.read text = .ok (.list (ops.map toListing)) := by
  have keyed : (table ops).toValue.isKeyed = true := by
    rw [table_toValue, Value.isKeyed, Value.itemsKeyed_iff, List.forall_mem_map]
    exact fun op _ => op.toListing_isKeyed
  rw [← table_toValue]
  exact Json.read_print rfl (Table.toValue_isSimple _) keyed written

end Operation

namespace Cli
variable {disk : Disk} {surroundings : Surroundings} {stamp : Text} {args : List Text} {line : Line}
  {s : Session} {p : Presentation} {ops : List Operation} {strict : Bool}

theorem run_tell_listing (installed : s.presentation = some p) (json : p.rendering = .json)
    (nonempty : ops ≠ []) : (tell strict (.routes ops)).run s
      = (do Act.sayAll [.value (Operation.table ops).toValue]; return 0 : Act Int).run s := by
  have full : ops.isEmpty = false := by simpa using nonempty
  have emissions : (Answer.routes ops).emissions p.rendering strict
      = [.table (Operation.table ops)] := by
    simp only [Answer.emissions, full, Bool.false_eq_true, if_false]
  have pieces : p.pieces (.table (Operation.table ops))
      = p.pieces (.value (Operation.table ops).toValue) := by
    simp only [Presentation.pieces, Presentation.tablePieces, json]
  have same : (Act.sayAll [.table (Operation.table ops)]).run s
      = (Act.sayAll [.value (Operation.table ops).toValue]).run s := by
    rw [sayAll_single, sayAll_single, Act.say, Act.say,
      Act.run_bind_ok (Act.run_current installed), Act.run_bind_ok Act.run_get,
      Act.run_bind_ok (Act.run_current installed), Act.run_bind_ok Act.run_get]
    simp only [json, pieces]
  rw [tell, Act.run_bind_ok (Act.run_current installed), emissions, Act.run_bind, Act.run_bind,
    same]
  rfl

/-- The last words of the program put nothing on the data stream. -/
theorem leave_data {message : Text} {code : Int} (installed : s.presentation = some p) :
    (leave disk message code s).streams.data = s.streams.data := by
  rw [leave, Act.run_remark installed]
  exact List.append_nil _

theorem run_data_of_mishap [Host] {m : Mishap}
    (ran : (runArguments disk args).run (.start surroundings) = (.error (.mishap m), s))
    (installed : s.presentation = some p) :
    (run disk surroundings stamp args).streams.data = s.streams.data := by
  simp only [run, ran, conclude]
  split
  · rfl
  · exact leave_data installed

/-- A listing that is told: the program ends well, and on the data stream there is one text on a
line of its own, which is read as the records of the operations in their order. -/
structure ListsReadably (ops : List Operation) (ended : Outcome) : Prop where
  code : ended.code = .ok 0
  data : ∃ text, ended.streams.data = text.ended
    ∧ Json.read text = .ok (.list (ops.map Operation.toListing))

section
variable [Host] (stamp) (read : Line.ofArguments? args = some line)
  (reaches : line.Reaches disk surroundings p strict (.routes ops)) (json : p.rendering = .json)
include read reaches json

theorem run_listing_clean (nonempty : ops ≠ [])
    (told : Json.IsTold (Json.print .report (Operation.table ops).toValue)) :
    ListsReadably ops (run disk surroundings stamp args) := by
  obtain ⟨s, ready, ran⟩ := run_of_reaches read reaches
  obtain ⟨text, written, clean⟩ := told
  rw [run_tell_listing ready.installed json nonempty,
    Act.run_bind_ok (Act.run_sayAll_value_ok ready.installed written clean)] at ran
  have ended : run disk surroundings stamp args
      = ⟨.ok 0, (s.wrote ⟨text.ended, []⟩).streams, disk⟩ := by
    simp only [run, ran]
    rfl
  rw [ended]
  refine ⟨rfl, text, ?_, Operation.read_table written⟩
  simp [ready.silent]

theorem run_listing_unclean (nonempty : ops ≠ [])
    (untold : ¬ Json.IsTold (Json.print .report (Operation.table ops).toValue)) :
    (∃ m, (run disk surroundings stamp args).code = crashed disk surroundings.environment stamp m)
      ∧ (run disk surroundings stamp args).streams.data = [] := by
  obtain ⟨s, ready, ran⟩ := run_of_reaches read reaches
  obtain ⟨m, failed⟩ := Act.run_sayAll_value_error ready.installed untold
  rw [run_tell_listing ready.installed json nonempty, Act.run_bind_error failed] at ran
  exact ⟨⟨m, run_code_of_mishap ran ready.installed ready.place⟩,
    (run_data_of_mishap ran ready.installed).trans ready.silent⟩

omit json in
theorem run_listing_empty (none : ops = []) :
    (run disk surroundings stamp args).code = .ok 0
      ∧ (run disk surroundings stamp args).streams.data = [] := by
  obtain ⟨s, ready, ran⟩ := run_of_reaches read reaches
  subst none
  have told : (Act.sayAll ((Answer.routes []).emissions p.rendering strict)).run s
      = (.ok (), s.wrote (.ofRemarks
        (Remark.info.text p "No operations defined in this spec."))) := by
    simp only [Answer.emissions, List.isEmpty_nil, if_true, sayAll_single]
    exact Act.run_remark ready.installed _ _
  rw [tell, Act.run_bind_ok (Act.run_current ready.installed), Act.run_bind_ok told] at ran
  have ended : run disk surroundings stamp args = ⟨.ok 0, (s.wrote (.ofRemarks
      (Remark.info.text p "No operations defined in this spec."))).streams, disk⟩ := by
    simp only [run, ran]
    rfl
  rw [ended]
  refine ⟨rfl, ?_⟩
  simp [Streams.ofRemarks, ready.silent]

end

/-- A project with a sound description is listed as records, which can be read again, just when it
has operations and all their texts are well formed. Without operations the program ends well and
lists nothing; where a text is not well formed it crashes, with nothing on the data stream. -/
theorem listsReadably_iff [Host] {settings : Settings} {document : Value}
    (read : Line.ofArguments? args = some line) (isRoutes : line.command = .routes)
    (made : line.presentation surroundings = .ok p)
    (settled : Settings.resolve disk surroundings.environment line.choices = .ok settings)
    (json : (p.inFormat settings.format).rendering = .json)
    (loaded : (Spec.load disk settings.root).outcome.1 = .ok document)
    (listed : Spec.normalize document = .ok ops) :
    (ListsReadably ops (run disk surroundings stamp args) ↔ ops ≠ [] ∧ ∀ op ∈ ops, op.IsClean)
      ∧ (ops = [] → (run disk surroundings stamp args).code = .ok 0
        ∧ (run disk surroundings stamp args).streams.data = [])
      ∧ (¬ (∀ op ∈ ops, op.IsClean) →
        (∃ m, (run disk surroundings stamp args).code
          = crashed disk surroundings.environment stamp m)
        ∧ (run disk surroundings stamp args).streams.data = []) := by
  have found : Answer.find disk settings line.command = .ok (.routes ops) := by
    rw [isRoutes, Answer.find, loaded]
    show Answer.routes <$> Spec.normalize document = _
    rw [listed]
    rfl
  have reaches := Line.Reaches.intro made settled found
  have told : Json.IsTold (Json.print .report (Operation.table ops).toValue)
      ↔ ∀ op ∈ ops, op.IsClean :=
    (Value.isTold_iff (Table.toValue_isSimple _)).trans
      (Operation.table_hasForm (Spec.isWellFormed_method listed))
  have empty (none : ops = []) := run_listing_empty stamp read reaches none
  have unclean (bad : ¬ ∀ op ∈ ops, op.IsClean) := run_listing_unclean stamp read reaches json
    (fun none => bad (none ▸ List.forall_mem_nil _)) (mt told.mp bad)
  refine ⟨⟨?_, ?_⟩, empty, unclean⟩
  · intro lists
    -- whatever the text is, its line is not empty
    have some : (run disk surroundings stamp args).streams.data ≠ [] := by
      obtain ⟨text, data, -⟩ := lists.data
      rw [data]
      simp [Text.ended]
    constructor
    · exact fun none => some (empty none).2
    · by_contra bad
      exact some (unclean bad).2
  · rintro ⟨nonempty, clean⟩
    exact run_listing_clean stamp read reaches json nonempty (told.mpr clean)

def quotedDisk : Disk := .withFile "openapi.json"
  "\x7b\"openapi\": \"3.0.0\", \"info\": \x7b\x7d, \"paths\": \x7b\"/\\u00fc\\\"\": \x7b\"get\": \x7b\"security\": [\x7b\"a\\\\\": [], \"b\": []\x7d]\x7d, \"POST\": \x7b\"x-public\": true, \"x-reason\": \"no\\n\"\x7d\x7d\x7d\x7d"

def quotedListing : List Operation := [
  ⟨"GET", "/ü\"", false, false, ["a\\", "b"], false, none⟩,
  ⟨"POST", "/ü\"", false, false, [], true, some "no\n"⟩]

def jsonRoutesLine : Line := ⟨⟨true, false, false, false, false, []⟩, .json, .routes, .none⟩

theorem ofArguments?_jsonRoutesLine :
    Line.ofArguments? ["--json", "routes"] = some jsonRoutesLine := by decide +kernel

theorem exists_load_of_toOption [Host] {root : Text}
    (found : ((Spec.load disk root).outcome.1.toOption.bind fun document =>
      (Spec.normalize document).toOption) = some ops) :
    ∃ document, (Spec.load disk root).outcome.1 = .ok document
      ∧ Spec.normalize document = .ok ops := by
  obtain ⟨document, loaded, listed⟩ := Option.bind_eq_some_iff.mp found
  exact ⟨document, toOption_eq_some_iff.mp loaded, toOption_eq_some_iff.mp listed⟩

theorem quoted_listsReadably :
    (Line.ofArguments? ["--json", "routes"] = some jsonRoutesLine
        ∧ jsonRoutesLine.presentation ⟨false, []⟩ = .ok Report.jsonPresentation
        ∧ Settings.resolve quotedDisk [] jsonRoutesLine.choices = .ok ⟨".", false, false, .json⟩
        ∧ ∃ document, (Spec.load quotedDisk ".").outcome.1 = .ok document
          ∧ Spec.normalize document = .ok quotedListing)
      ∧ ListsReadably quotedListing (run quotedDisk ⟨false, []⟩ [] ["--json", "routes"]) := by
  have made : jsonRoutesLine.presentation ⟨false, []⟩ = .ok Report.jsonPresentation := by
    decide +kernel
  have settled : Settings.resolve quotedDisk [] jsonRoutesLine.choices
      = .ok ⟨".", false, false, .json⟩ := toOption_eq_some_iff.mp (by decide +kernel)
  obtain ⟨document, loaded, listed⟩ :
      ∃ document, (Spec.load quotedDisk ".").outcome.1 = .ok document
        ∧ Spec.normalize document = .ok quotedListing :=
    exists_load_of_toOption (by decide +kernel)
  have texts : ∀ op ∈ quotedListing, op.path.isWellFormed = true
      ∧ (∀ t ∈ op.security, t.isWellFormed = true) ∧ ∀ t ∈ op.reason, t.isWellFormed = true := by
    decide +kernel
  refine ⟨⟨ofArguments?_jsonRoutesLine, made, settled, document, loaded, listed⟩, ?_⟩
  exact (listsReadably_iff ofArguments?_jsonRoutesLine rfl made settled rfl loaded listed).1.mpr
    ⟨by decide, fun op there => op.isClean_iff.mpr (texts op there)⟩

/-- A project with a sound description and without operations. -/
def noPathsDisk : Disk := .withFile "openapi.json"
  "\x7b\"openapi\": \"3.0.0\", \"info\": \x7b\x7d, \"paths\": \x7b\x7d\x7d"

/-- Its listing as records is not an empty list but nothing. -/
theorem no_paths_no_listing :
    (∃ document, (Spec.load noPathsDisk ".").outcome.1 = .ok document
        ∧ Spec.normalize document = .ok [])
      ∧ (run noPathsDisk ⟨false, []⟩ [] ["--json", "routes"]).code = .ok 0
      ∧ (run noPathsDisk ⟨false, []⟩ [] ["--json", "routes"]).streams.data = []
      ∧ ¬ ListsReadably [] (run noPathsDisk ⟨false, []⟩ [] ["--json", "routes"]) := by
  have silent : (run noPathsDisk ⟨false, []⟩ [] ["--json", "routes"]).streams.data = [] := by
    decide +kernel
  refine ⟨exists_load_of_toOption (by decide +kernel), ?_, silent, ?_⟩
  · exact toOption_eq_some_iff.mp (by decide +kernel)
  · rintro ⟨-, text, data, -⟩
    rw [silent] at data
    simp [Text.ended] at data

end Cli
end ExposureLint
