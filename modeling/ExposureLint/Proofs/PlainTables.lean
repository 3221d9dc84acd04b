import Mathlib
import ExposureLint.Proofs.Listing
import ExposureLint.Proofs.MethodClass

/-!
Plain tables as rows of cells. What telling a plain table puts on the data stream can be read again,
line by line and cell by cell between tabs, just when no cell has a tab, a line feed or half of a
surrogate pair in it. A cell with one of the first two cannot be read so from any text at all.
-/
namespace ExposureLint

/-- A character that leaves its cell in one piece. -/
def CodePoint.FitsCell (c : CodePoint) : Prop :=
  c.isSurrogate = false ∧ (c == CodePoint.ofChar '\t') = false
    ∧ (c == CodePoint.ofChar '\n') = false

instance (c : CodePoint) : Decidable c.FitsCell :=
  inferInstanceAs (Decidable (_ ∧ _ ∧ _))

namespace Text
variable {p : CodePoint → Bool} {s t : Text}

def FitsCell (t : Text) : Prop := ∀ c ∈ t, c.FitsCell

instance (t : Text) : Decidable t.FitsCell := inferInstanceAs (Decidable (∀ c ∈ t, c.FitsCell))

theorem fitsCell_append : (s ++ t).FitsCell ↔ s.FitsCell ∧ t.FitsCell :=
  List.forall_mem_append

theorem isWellFormed_of_fitsCell (fits : t.FitsCell) : t.isWellFormed = true :=
  isWellFormed_iff.mpr fun c there => (fits c there).1

theorem fitsCell_of_free (good : t.isWellFormed = true)
    (free : ∀ c ∈ t, (c == CodePoint.ofChar '\t') = false ∧ (c == CodePoint.ofChar '\n') = false) :
    t.FitsCell :=
  fun c there => ⟨isWellFormed_iff.mp good c there, free c there⟩

/-- Parts without the separator are the pieces of what they are joined to. -/
theorem pieces_join {c : CodePoint} (isSeparator : p c = true) {parts : List Text}
    (nonempty : parts ≠ []) (free : ∀ part ∈ parts, ∀ d ∈ part, p d = false) :
    pieces p (join [c] parts) = parts := by
  induction parts with
  | nil => exact absurd rfl nonempty
  | cons part rest ih =>
    obtain ⟨here, there⟩ := List.forall_mem_cons.mp free
    cases rest with
    | nil =>
      have alone : join [c] [part] = part := by simp [join]
      rw [alone, pieces_of_free here]
    | cons next more =>
      have joined : join [c] (part :: next :: more) = part ++ c :: join [c] (next :: more) := by
        simp [join, List.intercalate_cons_cons]
      rw [joined, pieces_append_cons here isSeparator, ih (List.cons_ne_nil next more) there]

def cells (line : Text) : List Text := line.pieces (· == '\t')

/-- A text that is read as rows of cells: its lines each end in a line feed and have tabs between
their cells. -/
def HasRows (data : Text) (rows : List (List Text)) : Prop :=
  ∃ lines, data.lines = lines ++ [[]] ∧ lines.map cells = rows

variable {data : Text} {rows : List (List Text)}

theorem HasRows.free (read : data.HasRows rows) : ∀ row ∈ rows, ∀ cell ∈ row, ∀ c ∈ cell,
    (c == CodePoint.ofChar '\t') = false ∧ (c == CodePoint.ofChar '\n') = false := by
  obtain ⟨lines, divided, rfl⟩ := read
  intro row there cell inside c among
  obtain ⟨line, given, rfl⟩ := List.mem_map.mp there
  obtain ⟨noTab, inLine⟩ := mem_pieces cell inside c among
  have isLine : line ∈ data.lines := divided ▸ List.mem_append_left _ given
  exact ⟨noTab, (mem_pieces line isLine c inLine).1⟩

theorem hasRows_of_free (full : ∀ row ∈ rows, row ≠ []) (free : ∀ row ∈ rows, ∀ cell ∈ row,
    ∀ c ∈ cell, (c == CodePoint.ofChar '\t') = false ∧ (c == CodePoint.ofChar '\n') = false) :
    HasRows ((rows.map (join "\t")).flatMap ended) rows := by
  refine ⟨rows.map (join "\t"), lines_flatMap ?_, ?_⟩
  · refine List.forall_mem_map.mpr fun row there => ?_
    refine (forall_mem_join (by decide) row).mpr fun cell inside c among => ?_
    exact (free row there cell inside c among).2
  · have each : ∀ row ∈ rows, (cells ∘ join "\t") row = id row := fun row there =>
      pieces_join (by decide) (full row there) fun cell inside c among =>
        (free row there cell inside c among).1
    rw [List.map_map, List.map_congr_left each, List.map_id]

end Text

namespace Table
variable {t : Table} {s : Session} {p : Presentation} {es : List Emission}

/-- A table that is told by its rows: telling it ends well, and what the data stream gets is read as
the headers and the rows. -/
def TellsRows (t : Table) (s : Session) (ended : Except Failure Unit × Session) : Prop :=
  ∃ added, ended = (.ok (), s.wrote added) ∧ added.data.HasRows (t.headers :: t.rows)

theorem data_remarks (remarks : ∀ e ∈ es, ∃ kind message, e = .remark kind message) :
    (Streams.all (es.map p.streamsOf)).data = [] := by
  induction es with
  | nil => rfl
  | cons e rest ih =>
    obtain ⟨⟨kind, message, rfl⟩, others⟩ := List.forall_mem_cons.mp remarks
    have first : (p.streamsOf (.remark kind message)).data = [] := by
      rw [Presentation.streamsOf_remark]
      rfl
    have both := congrArg₂ (· ++ ·) first (ih others)
    exact both

section
variable (installed : s.presentation = some p) (plain : p.rendering = .plain)
include installed plain

/-- A plain table with remarks after it is told by its rows just when all of its cells fit. -/
theorem tellsRows_iff (remarks : ∀ e ∈ es, ∃ kind message, e = .remark kind message)
    (full : ∀ row ∈ t.headers :: t.rows, row ≠ []) :
    t.TellsRows s ((Act.sayAll (.table t :: es)).run s)
      ↔ ∀ row ∈ t.headers :: t.rows, ∀ cell ∈ row, cell.FitsCell := by
  have free : p.rendering = .rich → s.blocked = none := fun rich => nomatch plain.symm.trans rich
  have form : (∀ e ∈ .table t :: es, p.CanTell e)
      ↔ ∀ row ∈ t.headers :: t.rows, ∀ cell ∈ row, cell.isWellFormed = true := by
    have tellable : ∀ e ∈ es, p.CanTell e := by
      intro e there
      obtain ⟨kind, message, rfl⟩ := remarks e there
      exact p.canTell_remark kind message
    rw [List.forall_mem_cons, and_iff_left tellable, Presentation.canTell_table_iff, HasForm, plain]
  constructor
  · rintro ⟨added, ended, read⟩ row there cell inside
    have able : ∀ e ∈ .table t :: es, p.CanTell e := by
      by_contra unable
      obtain ⟨m, s', failed, -⟩ := Act.run_sayAll_error installed free unable
      cases failed.symm.trans ended
    exact Text.fitsCell_of_free (form.mp able row there cell inside)
      (read.free row there cell inside)
  · intro fits
    have able := form.mpr fun row there cell inside =>
      Text.isWellFormed_of_fitsCell (fits row there cell inside)
    refine ⟨_, Act.run_sayAll installed free able, ?_⟩
    have data : (Streams.all ((Emission.table t :: es).map p.streamsOf)).data
        = t.toLines.flatMap Text.ended := by
      have first := congrArg Streams.data (Report.streamsOf_table plain t)
      have both := congrArg₂ (· ++ ·) first (data_remarks (p := p) remarks)
      exact both.trans (List.append_nil _)
    rw [data]
    exact Text.hasRows_of_free full fun row there cell inside c among =>
      (fits row there cell inside c among).2

end

end Table

namespace Finding
variable {f : Finding} {op : Operation}

theorem headers_fit : ∀ header ∈ headers, header.FitsCell := by decide

theorem row_fits_iff : (∀ cell ∈ f.row, cell.FitsCell)
    ↔ f.method.FitsCell ∧ f.route.FitsCell ∧ f.rule.FitsCell ∧ f.message.FitsCell := by
  have severity : f.severity.name.FitsCell := by cases f.severity <;> decide
  simp [row, severity]

/-- Besides the texts of its operation a message has ordinary words. -/
theorem message_fits_iff (verb : op.method.FitsCell) (rule : Rule) :
    (rule.message op).FitsCell ↔ op.path.FitsCell := by
  cases rule <;> simp only [Rule.message, Text.fitsCell_append]
  case publicWithoutReason =>
    exact ⟨fun fits => fits.1.2, fun path =>
      ⟨⟨⟨⟨by decide, verb⟩, by decide⟩, path⟩, by decide +kernel⟩⟩
  all_goals exact ⟨fun fits => fits.1.1.2, fun path =>
    ⟨⟨⟨⟨⟨by decide, verb⟩, by decide⟩, path⟩, by decide +kernel⟩, by decide +kernel⟩⟩

/-- Where the method is known, the path decides about a finding. -/
theorem row_fits_iff_of_mem (found : f ∈ ofOperation op) (verb : op.method.FitsCell) :
    (∀ cell ∈ f.row, cell.FitsCell) ↔ f.route.FitsCell := by
  obtain ⟨rule, -, checked⟩ := List.mem_filterMap.mp found
  rw [Rule.check] at checked
  split at checked
  · cases checked
    have id : rule.id.FitsCell := by cases rule <;> decide
    rw [row_fits_iff, message_fits_iff verb]
    exact ⟨fun fits => fits.2.1, fun path => ⟨verb, path, id, path⟩⟩
  · cases checked

end Finding

namespace Operation
variable {op : Operation}

theorem headers_fit : ∀ header ∈ headers, header.FitsCell := by decide

theorem schemesCell_fits_iff : op.schemesCell.FitsCell ↔ ∀ t ∈ op.security, t.FitsCell := by
  have joined : (Text.join ", " op.security).FitsCell ↔ ∀ t ∈ op.security, t.FitsCell :=
    Text.forall_mem_join (by decide) op.security
  rw [← joined, schemesCell]
  split
  · rename_i nothing
    rw [List.isEmpty_iff.mp nothing]
    exact iff_of_true (by decide) (by decide)
  · exact Iff.rfl

theorem row_fits_iff : (∀ cell ∈ op.row, cell.FitsCell)
    ↔ op.method.FitsCell ∧ op.path.FitsCell ∧ (∀ t ∈ op.security, t.FitsCell)
      ∧ ∀ t ∈ op.reason, t.FitsCell := by
  have isPublic : Text.FitsCell (if op.isPublic then "yes" else []) := by
    cases op.isPublic <;> decide
  have reason : (op.reason.getD []).FitsCell ↔ ∀ t ∈ op.reason, t.FitsCell := by
    cases op.reason with
    | none => exact iff_of_true (by decide) (by simp)
    | some t => simp
  simp [row, isPublic, schemesCell_fits_iff, reason]

end Operation

namespace Report
variable {r : Report} {f : Finding}

theorem IsReturned.row_fits_iff [Host] (returned : r.IsReturned) (there : f ∈ r.findings) :
    (∀ cell ∈ f.row, cell.FitsCell) ↔ f.route.FitsCell := by
  obtain rfl | ⟨specPath, document, built⟩ := returned.eq_skipped_or_built
  · cases there
  · rw [findings_eq_flatMap built] at there
    obtain ⟨op, among, found⟩ := List.mem_flatMap.mp there
    obtain ⟨ops, listed, rfl⟩ := ofDocument_eq_ok_iff.mp built
    obtain ⟨m, verb⟩ := Spec.method_eq_verb listed among
    have known : op.method.FitsCell := by
      rw [verb]
      cases m <;> decide
    exact Finding.row_fits_iff_of_mem found known

end Report

namespace Presentation

open Report (freshSession plainPresentation)

variable {p : Presentation} {s : Session}

section
variable (installed : s.presentation = some p) (plain : p.rendering = .plain)
include installed plain

theorem findings_tellRows_iff (strict : Bool) {r : Report} (found : r.findings ≠ []) :
    (Finding.table r.findings).TellsRows s ((Act.sayAll (r.emissions p.rendering strict)).run s)
      ↔ r.skipped = false ∧ ∀ f ∈ r.findings, ∀ cell ∈ f.row, cell.FitsCell := by
  cases skipped : r.skipped with
  | true =>
    -- Of a project that was skipped nothing is on the data stream, not even the headers.
    refine iff_of_false ?_ (by simp)
    rintro ⟨added, ended, lines, divided, read⟩
    have emissions : r.emissions p.rendering strict
        = [.remark .warning "No OpenAPI spec found. Skipping safety checks."] := by
      simp [Report.emissions, plain, skipped]
    rw [emissions, Cli.sayAll_single] at ended
    have told := (Act.run_remark installed _ _).symm.trans ended
    have silent : added.data = [] := by
      rw [← Session.wrote_inj (Prod.mk.inj told).2]
      rfl
    rw [silent] at divided
    cases lines with
    | nil => cases read
    | cons line rest => simp [Text.lines, Text.pieces] at divided
  | false =>
    have emissions : r.emissions p.rendering strict
        = .table (Finding.table r.findings) :: r.remarks strict := by
      rw [Report.emissions_eq (by simp [plain]) skipped]
      simp [found]
    have full : ∀ row ∈ Finding.headers :: r.findings.map Finding.row, row ≠ [] := by
      simp [Finding.headers, Finding.row]
    rw [emissions, Table.tellsRows_iff installed plain Report.exists_remark full]
    simp only [Finding.table, List.forall_mem_cons, List.forall_mem_map, true_and,
      and_iff_right Finding.headers_fit]

theorem operations_tellRows_iff (ops : List Operation) :
    (Operation.table ops).TellsRows s ((Act.say (.table (Operation.table ops))).run s)
      ↔ ∀ op ∈ ops, ∀ cell ∈ op.row, cell.FitsCell := by
  have full : ∀ row ∈ Operation.headers :: ops.map Operation.row, row ≠ [] := by
    simp [Operation.headers, Operation.row]
  rw [← Cli.sayAll_single, Table.tellsRows_iff installed plain
    (List.forall_mem_nil _) full]
  simp only [Operation.table, List.forall_mem_cons, List.forall_mem_map,
    and_iff_right Operation.headers_fit]

end

/-- A plain presentation tells a table by its rows just when every cell fits on a line. For the
findings of a report that means all their texts, and of a report that is returned only the routes;
for operations it means methods, paths, schemes and reasons. -/
theorem plain_tables_readBack_iff [Host] (installed : s.presentation = some p)
    (plain : p.rendering = .plain) :
    (∀ (strict : Bool) (r : Report), r.findings ≠ [] →
        ((Finding.table r.findings).TellsRows s
            ((Act.sayAll (r.emissions p.rendering strict)).run s)
          ↔ r.skipped = false ∧ ∀ f ∈ r.findings, f.method.FitsCell ∧ f.route.FitsCell
            ∧ f.rule.FitsCell ∧ f.message.FitsCell))
      ∧ (∀ (strict : Bool) (r : Report), r.IsReturned → r.findings ≠ [] →
        ((Finding.table r.findings).TellsRows s
            ((Act.sayAll (r.emissions p.rendering strict)).run s)
          ↔ ∀ f ∈ r.findings, f.route.FitsCell))
      ∧ ∀ ops : List Operation,
        ((Operation.table ops).TellsRows s ((Act.say (.table (Operation.table ops))).run s)
          ↔ ∀ op ∈ ops, op.method.FitsCell ∧ op.path.FitsCell ∧ (∀ t ∈ op.security, t.FitsCell)
            ∧ ∀ t ∈ op.reason, t.FitsCell) := by
  refine ⟨?arbitrary, ?returned, ?listing⟩
  case arbitrary =>
    intro strict r found
    rw [findings_tellRows_iff installed plain strict found]
    simp only [Finding.row_fits_iff]
  case returned =>
    intro strict r returned found
    have unskipped : r.skipped = false :=
      Bool.eq_false_iff.mpr fun skipped => found (returned.findings_eq_nil skipped)
    rw [findings_tellRows_iff installed plain strict found, and_iff_right unskipped]
    exact forall₂_congr fun f there => returned.row_fits_iff there
  case listing =>
    intro ops
    rw [operations_tellRows_iff installed plain]
    simp only [Operation.row_fits_iff]

theorem open_write_tables_readBack :
    ((freshSession plainPresentation).presentation = some plainPresentation
        ∧ plainPresentation.rendering = .plain
        ∧ Cli.openWriteReport.IsReturned ∧ Cli.openWriteReport.findings ≠ [])
      ∧ (Finding.table Cli.openWriteReport.findings).TellsRows (freshSession plainPresentation)
        ((Act.sayAll (Cli.openWriteReport.emissions .plain true)).run
          (freshSession plainPresentation))
      ∧ (Operation.table Cli.openWriteReport.operations).TellsRows (freshSession plainPresentation)
        ((Act.say (.table (Operation.table Cli.openWriteReport.operations))).run
          (freshSession plainPresentation)) := by
  have returned : Cli.openWriteReport.IsReturned := .inl ⟨_, _, _, Cli.ofProject_openWriteDisk⟩
  have found : Cli.openWriteReport.findings ≠ [] := by decide
  have routes : ∀ f ∈ Cli.openWriteReport.findings, f.route.FitsCell := by decide +kernel
  have texts : ∀ op ∈ Cli.openWriteReport.operations, op.method.FitsCell ∧ op.path.FitsCell
      ∧ (∀ t ∈ op.security, t.FitsCell) ∧ ∀ t ∈ op.reason, t.FitsCell := by decide +kernel
  obtain ⟨-, report, listing⟩ := plain_tables_readBack_iff
    (s := freshSession plainPresentation) rfl (rfl : plainPresentation.rendering = .plain)
  exact ⟨⟨rfl, rfl, returned, found⟩, (report true _ returned found).mpr routes,
    (listing _).mpr texts⟩

/-- A public operation whose reason takes two lines. -/
def twoLineDisk : Disk := .withFile "openapi.json"
  "\x7b\"openapi\": \"3.0.0\", \"info\": \x7b\x7d, \"paths\": \x7b\"/a\": \x7b\"get\": \x7b\"x-public\": true, \"x-reason\": \"status page\\nno data\"\x7d\x7d\x7d\x7d"

def twoLineOperations : List Operation := [
  ⟨"GET", "/a", false, false, [], true, some "status page\nno data"⟩]

/-- The row of one operation takes two lines then, and the second has a single cell. -/
theorem two_line_reason_splits_row :
    (∃ document, (Spec.load twoLineDisk ".").outcome.1 = .ok document
        ∧ Spec.normalize document = .ok twoLineOperations)
      ∧ (Cli.run twoLineDisk ⟨false, []⟩ [] ["--plain", "routes"]).code = .ok 0
      ∧ (Cli.run twoLineDisk ⟨false, []⟩ [] ["--plain", "routes"]).streams.data.lines
        = (["Method\tPath\tSecurity\tPublic\tReason", "GET\t/a\t-\tyes\tstatus page", "no data",
          ""] : List Text)
      ∧ ¬ (Operation.table twoLineOperations).TellsRows (freshSession plainPresentation)
        ((Act.say (.table (Operation.table twoLineOperations))).run
          (freshSession plainPresentation)) := by
  refine ⟨Cli.exists_load_of_toOption (by decide +kernel),
    toOption_eq_some_iff.mp (by decide +kernel), by decide +kernel, ?_⟩
  rintro ⟨added, -, read⟩
  have last := read.free _ (List.mem_cons_of_mem _ List.mem_cons_self) "status page\nno data"
    (by decide) (CodePoint.ofChar '\n') (by decide)
  cases last.2

end Presentation
end ExposureLint
