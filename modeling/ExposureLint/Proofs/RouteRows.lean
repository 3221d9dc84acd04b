import Mathlib
import ExposureLint.Proofs.ColourModes
import ExposureLint.Proofs.Consistency
import ExposureLint.Proofs.PlainTables

/-!
What the rows of a listing tell about authentication. A row has the names of the schemes joined in
one cell, and a dash there where the joined text is empty. So the dash tells that no scheme is asked
for, unless a single scheme without a name, or named by a dash, is: then the row is that of an
operation which is open to all. A drawing reads the cells as markup, and can lose more.
-/
namespace ExposureLint

namespace Markup
variable {t : Text}

/-- A text that a drawing shows as it is: it opens no tag, and has no short name of a picture and no
control character. -/
structure IsVerbatim (t : Text) : Prop where
  closed : ∀ c ∈ t, isOpening c = false
  noPicture : ∀ name ∈ Emoji.names t, Emoji.picture? name = none
  noControl : ∀ c ∈ t, c.isControl = false

theorem IsVerbatim.shown_eq (verbatim : IsVerbatim t) : shown t = t := by
  rw [shown, unescapeBrackets_eq verbatim.closed, Emoji.replace_eq_self verbatim.noPicture,
    Remark.withoutControls_eq verbatim.noControl]

theorem IsVerbatim.read_eq (verbatim : IsVerbatim t) : read t = .ok (.plain t) := by
  rw [read, parts_eq verbatim.closed, plainParts]
  cases t with
  | nil => rfl
  | cons c rest =>
    have some : (c :: rest).reverse.isEmpty = false := by simp
    rw [some, if_neg Bool.false_ne_true, List.reverse_reverse]
    show Except.ok (Reading.finish ⟨[] ++ shown (c :: rest), [], []⟩) = _
    rw [verbatim.shown_eq, List.nil_append]
    simp [Reading.finish, Styled.plain]

end Markup

/-- What a cell is shown as: in a drawing it is read as markup, and elsewhere it is left alone. -/
def Rendering.readCell : Rendering → Text → Except Markup.Fault Text
  | .json, cell | .plain, cell => .ok cell
  | .rich, cell => Styled.text <$> Markup.read cell

theorem Rendering.readCell_eq {r : Rendering} {cell : Text}
    (kept : r = .rich → Markup.IsVerbatim cell) : r.readCell cell = .ok cell := by
  cases r with
  | json | plain => rfl
  | rich =>
    rw [readCell, (kept rfl).read_eq]
    rfl

theorem Text.length_join_le_one {names : List Text} (short : (join ", " names).length ≤ 1) :
    names = [] ∨ ∃ t, names = [t] := by
  match names with
  | [] => exact .inl rfl
  | [t] => exact .inr ⟨t, rfl⟩
  | t :: next :: rest =>
    have separator : (Text.ofString ", ").length = 2 := rfl
    rw [Json.join_cons ", " t (List.cons_ne_nil next rest), List.length_append,
      List.length_append, separator] at short
    omega

namespace Operation
variable {op : Operation} {r : Rendering} {row : List Text}

def cellUnder (header : Text) (row : List Text) : Text := ((headers.zip row).lookup header).getD []

def shownRow (r : Rendering) (op : Operation) : Except Markup.Fault (List Text) :=
  op.row.mapM r.readCell

/-- A row that tells the facts about an operation which the rules go by: whether it asks for a
scheme, whether it is public on purpose and with which reason, and so whether it is
authenticated. -/
structure IsToldBy (row : List Text) (op : Operation) : Prop where
  security : cellUnder "Security" row = "-" ↔ op.security = []
  isPublic : cellUnder "Public" row = "yes" ↔ op.isPublic = true
  authenticated : op.isAuthenticated = true
    ↔ cellUnder "Security" row ≠ "-" ∨ cellUnder "Public" row = "yes"
  reason : cellUnder "Reason" row = [] ↔ op.reason = none

/-- The schemes of an operation are shown as if there were none. -/
def HidesSchemes (r : Rendering) (op : Operation) : Prop :=
  op.security ≠ [] ∧ r.readCell op.schemesCell = .ok "-"

/-- The reason of an operation is shown as if there were none. -/
def HidesReason (r : Rendering) (op : Operation) : Prop :=
  ∃ t ∈ op.reason, r.readCell t = .ok []

theorem schemesCell_of_none (none : op.security = []) : op.schemesCell = "-" := by
  rw [schemesCell, none]
  rfl

theorem schemesCell_eq_dash_iff :
    op.schemesCell = "-" ↔ op.security = [] ∨ op.security = [[]] ∨ op.security = ["-"] := by
  constructor
  · intro dash
    have short : (Text.join ", " op.security).length ≤ 1 := by
      rw [schemesCell] at dash
      split at dash
      · rename_i nothing
        rw [List.isEmpty_iff.mp nothing]
        exact Nat.zero_le 1
      · rw [dash]
        decide
    obtain none | ⟨t, one⟩ := Text.length_join_le_one short
    · exact .inl none
    · rw [schemesCell, one, Json.join_single] at dash
      split at dash
      · rename_i nothing
        exact .inr (.inl (one.trans (congrArg ([·]) (List.isEmpty_iff.mp nothing))))
      · exact .inr (.inr (one.trans (congrArg ([·]) dash)))
  · rintro (none | blank | dash)
    · exact schemesCell_of_none none
    · rw [schemesCell, blank]
      rfl
    · rw [schemesCell, dash]
      rfl

/-- Where the schemes are shown as they are, they are hidden by a single name at most. -/
theorem hidesSchemes_iff (kept : r.readCell op.schemesCell = .ok op.schemesCell) :
    op.HidesSchemes r ↔ op.security = [[]] ∨ op.security = ["-"] := by
  rw [HidesSchemes, kept, Except.ok.injEq, schemesCell_eq_dash_iff]
  constructor
  · rintro ⟨some, none | single⟩
    · exact absurd none some
    · exact single
  · intro single
    refine ⟨?_, .inr single⟩
    rintro none
    simp [none] at single

theorem readCell_public : r.readCell (if op.isPublic then "yes" else [])
    = .ok (if op.isPublic then "yes" else []) := by
  cases r with
  | json | plain => rfl
  | rich => cases op.isPublic <;> rfl

theorem readCell_none : r.readCell [] = .ok [] := by cases r <;> rfl

theorem readCell_dash : r.readCell "-" = .ok "-" := by cases r <;> rfl

theorem cells_of_shownRow (shown : op.shownRow r = .ok row) :
    r.readCell op.schemesCell = .ok (cellUnder "Security" row)
      ∧ cellUnder "Public" row = (if op.isPublic then ("yes" : Text) else [])
      ∧ r.readCell (op.reason.getD []) = .ok (cellUnder "Reason" row) := by
  have cells := mapM_eq_ok_iff.mp shown
  simp only [Operation.row, List.forall₂_cons_left_iff, List.forall₂_nil_left_iff] at cells
  obtain ⟨verb, _, -, ⟨path, _, -, ⟨schemes, _, schemesRead, ⟨mark, _, markRead, ⟨reason, _,
    reasonRead, rfl, rfl⟩, rfl⟩, rfl⟩, rfl⟩, rfl⟩ := cells
  rw [readCell_public] at markRead
  exact ⟨schemesRead, (Except.ok.inj markRead).symm, reasonRead⟩

section
variable (shown : op.shownRow r = .ok row)
include shown

theorem public_told : cellUnder "Public" row = "yes" ↔ op.isPublic = true := by
  rw [(cells_of_shownRow shown).2.1]
  cases op.isPublic <;> decide

theorem schemes_told_iff :
    (cellUnder "Security" row = "-" ↔ op.security = []) ↔ ¬ op.HidesSchemes r := by
  have read := (cells_of_shownRow shown).1
  constructor
  · rintro told ⟨some, dash⟩
    exact some (told.mp (Except.ok.inj (read.symm.trans dash)))
  · intro visible
    constructor
    · intro dash
      by_contra some
      exact visible ⟨some, read.trans (congrArg _ dash)⟩
    · intro none
      rw [schemesCell_of_none none, readCell_dash] at read
      exact (Except.ok.inj read).symm

theorem reason_told_iff :
    (cellUnder "Reason" row = [] ↔ op.reason = none) ↔ ¬ op.HidesReason r := by
  have read := (cells_of_shownRow shown).2.2
  cases given : op.reason with
  | none =>
    rw [given, Option.getD_none, readCell_none] at read
    refine iff_of_true (iff_of_true (Except.ok.inj read).symm rfl) ?_
    simp [HidesReason, given]
  | some t =>
    rw [given, Option.getD_some] at read
    simp [HidesReason, given, read]

/-- Authentication is read off a row where it comes from the mark of public operations, or from
schemes that are visible. -/
theorem authentication_told_iff :
    (op.isAuthenticated = true
        ↔ cellUnder "Security" row ≠ "-" ∨ cellUnder "Public" row = "yes")
      ↔ op.isPublic = true ∨ ¬ op.HidesSchemes r := by
  rw [public_told shown, ← schemes_told_iff shown, isAuthenticated]
  cases op.isPublic with
  | true => simp
  | false =>
    have nothing : op.security.isEmpty = true ↔ op.security = [] := List.isEmpty_iff
    simp only [Bool.or_false, Bool.not_eq_true', Bool.false_eq_true, or_false, false_or,
      ← Bool.not_eq_true, nothing]
    exact ⟨fun told => (not_iff_not.mp told).symm, fun told => not_iff_not.mpr told.symm⟩

theorem isToldBy_iff : op.IsToldBy row ↔ ¬ op.HidesSchemes r ∧ ¬ op.HidesReason r := by
  rw [← schemes_told_iff shown, ← reason_told_iff shown]
  constructor
  · intro told
    exact ⟨told.security, told.reason⟩
  · rintro ⟨security, reason⟩
    have visible := (schemes_told_iff shown).mp security
    exact ⟨security, public_told shown, (authentication_told_iff shown).mpr (.inr visible), reason⟩

end

theorem shownRow_eq (kept : r = .rich → ∀ cell ∈ op.row, Markup.IsVerbatim cell) :
    op.shownRow r = .ok op.row := by
  have each : ∀ cell ∈ op.row, r.readCell cell = .ok cell := fun cell there =>
    Rendering.readCell_eq fun rich => kept rich cell there
  rw [shownRow, mapM_eq_ok_iff, List.forall₂_same]
  exact each

end Operation

theorem forall₂_getElem? {α β : Type} {R : α → β → Prop} {xs : List α} {ys : List β}
    (related : List.Forall₂ R xs ys) {n : Nat} {x : α} (there : xs[n]? = some x) :
    ∃ y, ys[n]? = some y ∧ R x y := by
  induction related generalizing n with
  | nil => cases there
  | cons first _ ih =>
    cases n with
    | zero =>
      cases there
      exact ⟨_, rfl, first⟩
    | succ n => exact ih there

namespace Table
variable {t : Table} {limit : Nat} {columns : List (List Styled)} {row : List Text} {n : Nat}

/-- What the columns of a table may take on a screen. -/
def limitOn (screen : Screen) (t : Table) : Nat := screen.columns - (t.breadth + 1)

def textsOf (columns : List (List Styled)) (n : Nat) : List Text :=
  columns.map fun column => (column.getD n (.plain [])).text

/-- Where there is room, a row of the columns has the cells of a row of the table, as they are
shown. -/
theorem readRow_of_columnsOf (room : column.hasRoom limit = true)
    (read : t.columnsOf limit = .ok columns) (there : t.allRows[n]? = some row)
    (full : row.length = t.breadth) :
    row.mapM Rendering.rich.readCell = .ok (textsOf columns n) := by
  have cells : row = (List.range t.breadth).map fun i => row.getD i [] := by
    refine List.ext_getElem (by simp [full]) fun i inside _ => ?_
    simp [inside]
  simp only [columnsOf, room, if_true] at read
  -- a table is read column by column, so each cell of the row comes from another column
  rw [mapM_eq_ok_iff, textsOf, cells, List.forall₂_map_left_iff, List.forall₂_map_right_iff]
  refine (mapM_eq_ok_iff.mp read).imp fun i column made => ?_
  obtain ⟨cell, placed, told⟩ := forall₂_getElem? (mapM_eq_ok_iff.mp made) there
  rw [Rendering.readCell, told, List.getD_eq_getElem?_getD, placed]
  rfl

theorem length_of_columnsOf (read : t.columnsOf limit = .ok columns) :
    ∀ column ∈ columns, column.length = t.allRows.length := by
  intro column there
  obtain ⟨n, placed⟩ := List.mem_iff_getElem?.mp there
  obtain ⟨_, -, made⟩ := forall₂_getElem? (mapM_eq_ok_iff.mp read).flip placed
  exact (mapM_eq_ok_iff.mp made).length_eq.symm

end Table

namespace Act
variable {s s' : Session} {p : Presentation} {t : Table}

theorem of_say_table (installed : s.presentation = some p)
    (said : (say (.table t)).run s = (.ok (), s')) :
    ∃ pieces, p.tablePieces t = .ok pieces ∧ s' = s.wrote (.all (pieces.map Piece.streams)) := by
  have free : p.rendering = .rich → s.blocked = none := by
    intro rich
    by_contra blocked
    obtain ⟨fault, there⟩ := Option.ne_none_iff_exists'.mp blocked
    rw [say, run_bind_ok (run_current installed), run_bind_ok run_get, rich, there] at said
    cases said
  by_cases able : p.CanTell (.table t)
  · have written := run_say_of_canTell installed free able
    obtain ⟨pieces, made, -⟩ := able
    refine ⟨pieces, made, ?_⟩
    rw [said, Presentation.streamsOf, made] at written
    exact (Prod.mk.inj written).2
  · obtain ⟨m, s'', failed, -⟩ := run_say_error installed free able
    cases said.symm.trans failed

end Act

namespace Operation
variable {ops : List Operation} {p : Presentation} {s s' : Session} {document : Value}

/-- A drawing in which each operation is shown in a row of its own, below the headers. -/
def AreDrawn (ops : List Operation) (screen : Screen) (drawn : Text) : Prop :=
  ∃ columns title lines,
    Table.drawnLines (Table.widths ((table ops).limitOn screen) columns) title columns = .ok lines
      ∧ screen.textOf lines = drawn
      ∧ (∀ column ∈ columns, column.length = ops.length + 1)
      ∧ ∀ (n : Nat) (op : Operation), ops[n]? = some op →
        op.shownRow .rich = .ok (Table.textsOf columns (n + 1))

/-- What a session wrote shows the rows of operations: as records, each with its cells under the
headers; as lines with tabs between the cells; or as a drawing, on a screen with room for cells. -/
def AreShown (ops : List Operation) (p : Presentation) (s s' : Session) : Prop :=
  match p.rendering with
  | .json => ∃ text, s' = s.wrote ⟨Text.ended text, []⟩
      ∧ Json.read text = .ok (.list (ops.map fun op =>
        .map ((headers.zip op.row).map fun (header, cell) => (.text header, .text cell))))
  | .plain =>
    s' = s.wrote ⟨((headers :: ops.map row).map (Text.join "\t")).flatMap Text.ended, []⟩
  | .rich => ∃ drawn, s' = s.wrote ⟨drawn, []⟩
      ∧ (Table.column.hasRoom ((table ops).limitOn p.screen) = true → AreDrawn ops p.screen drawn)

theorem breadth_table (ops : List Operation) : (table ops).breadth = headers.length := by
  induction ops with
  | nil => rfl
  | cons op rest ih => exact ih

theorem allRows_table (ops : List Operation) : (table ops).allRows = headers :: ops.map row := by
  have full : ∀ cells ∈ headers :: ops.map row,
      cells ++ List.replicate ((table ops).breadth - cells.length) [] = cells := by
    rw [breadth_table]
    simp [row, headers]
  exact (List.map_congr_left full).trans (List.map_id _)

theorem areDrawn_of_draw {screen : Screen} {drawn : Text}
    (room : Table.column.hasRoom ((table ops).limitOn screen) = true)
    (drew : (table ops).draw screen = .ok drawn) : AreDrawn ops screen drawn := by
  have wide : (screen.columns == 0) = false := by
    rw [beq_eq_false_iff_ne]
    intro narrow
    rw [Table.limitOn, narrow, Nat.zero_sub] at room
    cases room
  have broad : ((table ops).breadth == 0) = false := by
    rw [breadth_table]
    rfl
  have titled : (table ops).title.isEmpty = false := rfl
  simp only [Table.draw, wide, broad, titled, Bool.false_eq_true, if_false, bind_eq_ok_iff,
    mapError_eq_ok_iff] at drew
  obtain ⟨columns, read, title, -, lines, made, finished⟩ := drew
  refine ⟨columns, title, lines, made, Except.ok.inj finished, ?_, ?_⟩
  · intro column there
    rw [Table.length_of_columnsOf read column there, allRows_table]
    simp
  · intro n op there
    have placed : (table ops).allRows[n + 1]? = some op.row := by simp [allRows_table, there]
    exact Table.readRow_of_columnsOf room read placed (breadth_table ops).symm

theorem areShown_of_say (installed : s.presentation = some p)
    (said : (Act.say (.table (table ops))).run s = (.ok (), s')) : AreShown ops p s s' := by
  obtain ⟨pieces, made, rfl⟩ := Act.of_say_table installed said
  unfold AreShown
  cases rendering : p.rendering with
  | json =>
    simp only [Presentation.tablePieces, rendering, bind_eq_ok_iff] at made
    obtain ⟨text, written, made⟩ := made
    cases made
    exact ⟨text, congrArg s.wrote (Streams.append_empty _),
      read_table (mapError_eq_ok_iff.mp written)⟩
  | plain =>
    have told := Report.streamsOf_table rendering (table ops)
    simp only [Presentation.streamsOf, Presentation.pieces, made] at told
    exact congrArg s.wrote told
  | rich =>
    simp only [Presentation.tablePieces, rendering] at made
    cases drew : (table ops).draw p.screen with
    | error fault =>
      rw [drew] at made
      cases made
    | ok drawn =>
      rw [drew] at made
      cases made
      exact ⟨drawn, congrArg s.wrote (Streams.append_empty _),
        fun room => areDrawn_of_draw room drew⟩

/-- The only reason that is shown as it is has a text. -/
theorem not_hidesReason [Host] (listed : Spec.normalize document = .ok ops) {op : Operation}
    (there : op ∈ ops) {r : Rendering} (kept : ∀ t ∈ op.reason, r.readCell t = .ok t) :
    ¬ op.HidesReason r := by
  rintro ⟨t, given, empty⟩
  obtain ⟨d, describes⟩ := Spec.exists_describes listed there
  exact (describes.reason_ne_nil given).1 (Except.ok.inj ((kept t given).symm.trans empty))

/-- A row tells about its operation just when what it shows of the schemes is not a dash, and of the
reason not nothing, where there are any. Cells that are shown as they are hide no reason, and the
schemes only where a single one has no name or is named by a dash. Rows are shown so wherever the
listing is printed. -/
theorem rows_tell_iff [Host] (listed : Spec.normalize document = .ok ops) :
    (∀ op ∈ ops, ∀ r row, op.shownRow r = .ok row →
        (op.IsToldBy row ↔ ¬ op.HidesSchemes r ∧ ¬ op.HidesReason r)
          ∧ (cellUnder "Public" row = "yes" ↔ op.isPublic = true)
          ∧ ((op.isAuthenticated = true
              ↔ cellUnder "Security" row ≠ "-" ∨ cellUnder "Public" row = "yes")
            ↔ op.isPublic = true ∨ ¬ op.HidesSchemes r))
      ∧ (∀ op ∈ ops, ∀ r : Rendering, (r = .rich → ∀ cell ∈ op.row, Markup.IsVerbatim cell) →
        op.shownRow r = .ok op.row
          ∧ (op.IsToldBy op.row ↔ ¬ (op.security = [[]] ∨ op.security = ["-"])))
      ∧ ∀ (s s' : Session) (p : Presentation), s.presentation = some p →
        (Act.say (.table (table ops))).run s = (.ok (), s') → AreShown ops p s s' := by
  refine ⟨?shown, ?kept, ?printed⟩
  case shown =>
    intro op _ r row shown
    exact ⟨isToldBy_iff shown, public_told shown, authentication_told_iff shown⟩
  case kept =>
    intro op there r kept
    have shown := shownRow_eq kept
    have cell {c : Text} (among : c ∈ op.row) : r.readCell c = .ok c :=
      Rendering.readCell_eq fun rich => kept rich c among
    have visible : ¬ op.HidesReason r := not_hidesReason listed there fun t given =>
      cell (by simp [row, Option.mem_def.mp given])
    refine ⟨shown, ?_⟩
    rw [isToldBy_iff shown, and_iff_left visible, hidesSchemes_iff (cell (by simp [row]))]
  case printed =>
    intro s s' p installed said
    exact areShown_of_say installed said

open Report (freshSession plainPresentation)

def richPresentation : Presentation := { plainPresentation with rendering := .rich }

theorem sample_rows_tell : ∃ s',
    (Spec.normalize Spec.sampleDocument = .ok Spec.sampleOperations
        ∧ (freshSession richPresentation).presentation = some richPresentation
        ∧ (Act.say (.table (table Spec.sampleOperations))).run (freshSession richPresentation)
          = (.ok (), s')
        ∧ ∀ op ∈ Spec.sampleOperations, op.shownRow .rich = .ok op.row)
      ∧ (∀ op ∈ Spec.sampleOperations, op.IsToldBy op.row)
      ∧ AreShown Spec.sampleOperations richPresentation (freshSession richPresentation) s' := by
  have listed : Spec.normalize Spec.sampleDocument = .ok Spec.sampleOperations := rfl
  obtain ⟨s', said⟩ : ∃ s', (Act.say (.table (table Spec.sampleOperations))).run
      (freshSession richPresentation) = (.ok (), s') := by
    have ended : ((Act.say (.table (table Spec.sampleOperations))).run
        (freshSession richPresentation)).1 = .ok () := toOption_eq_some_iff.mp (by decide +kernel)
    generalize (Act.say (.table (table Spec.sampleOperations))).run
      (freshSession richPresentation) = ran at ended
    exact ⟨ran.2, Prod.ext ended rfl⟩
  have shown : ∀ op ∈ Spec.sampleOperations, op.shownRow .rich = .ok op.row := by
    have each : ∀ op ∈ Spec.sampleOperations, (op.shownRow .rich).toOption = some op.row := by
      decide +kernel
    exact fun op there => toOption_eq_some_iff.mp (each op there)
  have names : ∀ op ∈ Spec.sampleOperations, ¬ (op.security = [[]] ∨ op.security = ["-"]) := by
    decide
  obtain ⟨-, kept, printed⟩ := rows_tell_iff listed
  refine ⟨s', ⟨listed, rfl, said, shown⟩, fun op there => ?_, printed _ _ _ rfl said⟩
  exact (kept op there .json (by simp)).2.mpr (names op there)

/-- A project whose one operation asks for a scheme without a name. -/
def blankSchemeDisk : Disk := .withFile "openapi.json"
  "\x7b\"openapi\": \"3.0.0\", \"info\": \x7b\x7d, \"paths\": \x7b\"/a/\x7bid\x7d\": \x7b\"get\": \x7b\"security\": [\x7b\"\": []\x7d]\x7d\x7d\x7d\x7d"

def blankSchemeOperation : Operation := ⟨"GET", "/a/\x7bid\x7d", false, true, [[]], false, none⟩

/-- It is authenticated, but is listed like one that is open to all. -/
theorem blank_scheme_not_told :
    (∃ document, (Spec.load blankSchemeDisk ".").outcome.1 = .ok document
        ∧ Spec.normalize document = .ok [blankSchemeOperation])
      ∧ (Cli.run blankSchemeDisk ⟨false, []⟩ [] ["--json", "routes"]).streams.data
        = "[\n  \x7b\n    \"Method\": \"GET\",\n    \"Path\": \"/a/\x7bid\x7d\",\n    \"Security\": \"-\",\n    \"Public\": \"\",\n    \"Reason\": \"\"\n  \x7d\n]\n"
      ∧ blankSchemeOperation.security ≠ [] ∧ blankSchemeOperation.isAuthenticated = true
      ∧ cellUnder "Security" blankSchemeOperation.row = "-"
      ∧ cellUnder "Public" blankSchemeOperation.row ≠ "yes"
      ∧ ¬ blankSchemeOperation.IsToldBy blankSchemeOperation.row := by
  refine ⟨Cli.exists_load_of_toOption (by decide +kernel), by decide +kernel, by decide, rfl, rfl,
    by decide, fun told => ?_⟩
  cases told.security.mp rfl

end Operation
end ExposureLint
