import Mathlib
import ExposureLint.Proofs.CommandRun
import ExposureLint.Proofs.Entries

/-!
What can be told. A text can be written just when it is well formed, and so an answer can be told
just when the texts that its rendering writes are: all texts of a record, the cells of a table, or
the drawing of one. An integer in a record must have a text besides.
-/
namespace ExposureLint

theorem CodePoint.isSurrogate_ofChar (c : Char) : (CodePoint.ofChar c).isSurrogate = false := by
  have valid : c.toNat < 0xD800 ∨ 0xDFFF < c.toNat ∧ c.toNat < 0x110000 := c.valid
  have range : (ofChar c).val = c.toNat := rfl
  simp [isSurrogate, range]
  omega

namespace Text
variable {s t : Text}

@[simp] theorem isWellFormed_nil : isWellFormed [] = true := rfl

@[simp] theorem isWellFormed_cons (c : CodePoint) :
    isWellFormed (c :: t) = (!c.isSurrogate && t.isWellFormed) := rfl

@[simp] theorem isWellFormed_append :
    isWellFormed (s ++ t) = (s.isWellFormed && t.isWellFormed) := List.all_append

theorem isWellFormed_iff : t.isWellFormed = true ↔ ∀ c ∈ t, c.isSurrogate = false := by
  simp [isWellFormed]

theorem isWellFormed_of_subset (good : t.isWellFormed = true) (less : s ⊆ t) :
    s.isWellFormed = true :=
  isWellFormed_iff.mpr fun c there => isWellFormed_iff.mp good c (less there)

theorem isWellFormed_map_ofChar (cs : List Char) :
    isWellFormed (cs.map CodePoint.ofChar) = true := by
  simp [isWellFormed_iff, CodePoint.isSurrogate_ofChar]

@[simp] theorem isWellFormed_ofString (s : String) : (ofString s).isWellFormed = true :=
  isWellFormed_map_ofChar _

@[simp] theorem isWellFormed_ofNat (n : Nat) : (ofNat n).isWellFormed = true :=
  isWellFormed_ofString _

@[simp] theorem isWellFormed_replicate_ofChar (n : Nat) (c : Char) :
    isWellFormed (List.replicate n (CodePoint.ofChar c)) = true := by
  simp [isWellFormed, CodePoint.isSurrogate_ofChar]

theorem isWellFormed_ofInt (i : Int) : (ofInt i).isWellFormed = true := by
  cases i with
  | ofNat n => exact isWellFormed_ofNat n
  | negSucc n => simp [ofInt]

theorem isWellFormed_ofNatHex (width n : Nat) : (ofNatHex width n).isWellFormed = true := by
  simp [ofNatHex, padZero, isWellFormed_map_ofChar]

theorem isWellFormed_flatMap {f : CodePoint → Text} :
    isWellFormed (t.flatMap f) = true ↔ ∀ c ∈ t, (f c).isWellFormed = true := by
  simp [isWellFormed]

theorem forall_mem_join {P : CodePoint → Prop} {separator : Text}
    (clean : ∀ c ∈ separator, P c) (parts : List Text) :
    (∀ c ∈ join separator parts, P c) ↔ ∀ part ∈ parts, ∀ c ∈ part, P c := by
  induction parts with
  | nil => simp [join]
  | cons part rest ih =>
    cases rest with
    | nil => simp [join]
    | cons next more =>
      have joined : join separator (part :: next :: more)
          = part ++ separator ++ join separator (next :: more) := by
        simp [join, List.intercalate_cons_cons]
      rw [joined, List.forall_mem_append, List.forall_mem_append, and_iff_left clean, ih]
      simp only [List.forall_mem_cons]

theorem isWellFormed_join (separator : Text) (clean : separator.isWellFormed = true)
    (parts : List Text) :
    (join separator parts).isWellFormed = true ↔ ∀ part ∈ parts, part.isWellFormed = true := by
  simp only [isWellFormed_iff] at clean ⊢
  exact forall_mem_join clean parts

end Text

/-- All code points have a form in bytes when each is exempt or no surrogate. -/
theorem Utf8.unwritableBut?_eq_none_iff (exempt : CodePoint → Bool) (t : Text) :
    unwritableBut? exempt t = none ↔ ∀ c ∈ t, c.isSurrogate = false ∨ exempt c = true := by
  have cut : t.drop (t.takeWhile fun c => !c.isSurrogate || exempt c).length
      = t.dropWhile fun c => !c.isSurrogate || exempt c := by
    have parted := congrArg (List.drop (t.takeWhile fun c => !c.isSurrogate || exempt c).length)
      (List.takeWhile_append_dropWhile (p := fun c => !c.isSurrogate || exempt c) (l := t))
    rw [List.drop_left] at parted
    exact parted.symm
  simp only [unwritableBut?, cut]
  split
  · rename_i whole
    simpa [List.dropWhile_eq_nil_iff] using whole
  · rename_i c rest more
    have bad : ¬ ∀ c ∈ t, (!c.isSurrogate || exempt c) = true := by
      rw [← List.dropWhile_eq_nil_iff, more]
      simp
    simpa using bad

theorem Utf8.unwritable?_eq_none_iff (t : Text) :
    unwritable? t = none ↔ t.isWellFormed = true := by
  simp [unwritable?, unwritableBut?_eq_none_iff, Text.isWellFormed_iff]

namespace Json
variable {style : Style}

theorem escaped_cases (c : CodePoint) :
    (∃ l d, (l, d) ∈ shortEscapes ∧ c = CodePoint.ofChar d
        ∧ escaped false c = [CodePoint.ofChar '\\', CodePoint.ofChar l])
      ∨ (c.val < 0x20 ∧ escaped false c
          = CodePoint.ofChar '\\' :: CodePoint.ofChar 'u' :: Text.ofNatHex 4 c.val)
      ∨ (¬ c.val < 0x20 ∧ c ≠ CodePoint.ofChar '"' ∧ c ≠ CodePoint.ofChar '\\'
        ∧ escaped false c = [c]) := by
  have short {l d : Char} (entry : (l, d) ∈ shortEscapes) (same : c = CodePoint.ofChar d)
      (form : escaped false (CodePoint.ofChar d) = [CodePoint.ofChar '\\', CodePoint.ofChar l]) :
      ∃ l d, (l, d) ∈ shortEscapes ∧ c = CodePoint.ofChar d
        ∧ escaped false c = [CodePoint.ofChar '\\', CodePoint.ofChar l] :=
    ⟨l, d, entry, same, same ▸ form⟩
  by_cases quote : c = CodePoint.ofChar '"'
  · exact .inl (short (by decide) quote rfl)
  by_cases backslash : c = CodePoint.ofChar '\\'
  · exact .inl (short (by decide) backslash rfl)
  by_cases lineFeed : c = CodePoint.ofChar '\n'
  · exact .inl (short (by decide) lineFeed rfl)
  by_cases returned : c = CodePoint.ofChar '\r'
  · exact .inl (short (by decide) returned rfl)
  by_cases tab : c = CodePoint.ofChar '\t'
  · exact .inl (short (by decide) tab rfl)
  by_cases formFeed : c = CodePoint.ofChar '\x0c'
  · exact .inl (short (by decide) formFeed rfl)
  by_cases backspace : c = CodePoint.ofChar '\x08'
  · exact .inl (short (by decide) backspace rfl)
  have form : escaped false c = if c.val < 0x20 then hexEscaped c.val else [c] := by
    simp only [escaped, beq_iff_eq, if_neg quote, if_neg backslash, if_neg lineFeed,
      if_neg returned, if_neg tab, if_neg formFeed, if_neg backspace]
    rfl
  by_cases control : c.val < 0x20
  · exact .inr (.inl ⟨control, form.trans (if_pos control)⟩)
  · exact .inr (.inr ⟨control, quote, backslash, form.trans (if_neg control)⟩)

theorem isWellFormed_escaped (c : CodePoint) : (escaped false c).isWellFormed = !c.isSurrogate := by
  obtain ⟨l, d, -, rfl, form⟩ | ⟨control, form⟩ | ⟨-, -, -, form⟩ := escaped_cases c
  · simp [form, CodePoint.isSurrogate_ofChar]
  · have small : c.isSurrogate = false := by
      simp only [CodePoint.isSurrogate, Bool.and_eq_false_iff, decide_eq_false_iff_not]
      omega
    simp [form, small, CodePoint.isSurrogate_ofChar, Text.isWellFormed_ofNatHex]
  · simp [form]

/-- Quotes change nothing about whether a text is well formed. -/
theorem isWellFormed_quoted (t : Text) : (quoted false t).isWellFormed = t.isWellFormed := by
  have inside : Text.isWellFormed (t.flatMap (escaped false)) = t.isWellFormed := by
    rw [Bool.eq_iff_iff, Text.isWellFormed_flatMap, Text.isWellFormed_iff]
    simp [isWellFormed_escaped]
  simp [quoted, inside]

theorem isWellFormed_lineBreak (style : Style) (level : Nat) :
    (lineBreak style level).isWellFormed = true := by
  unfold lineBreak
  split <;> simp [CodePoint.isSurrogate_ofChar]

theorem isWellFormed_separator (style : Style) (level : Nat) :
    (separator style level).isWellFormed = true := by
  unfold separator
  split <;> simp [isWellFormed_lineBreak]

theorem isWellFormed_bracketed (style : Style) (level : Nat) (opening closing : Char)
    (parts : List Text) : (bracketed style level opening closing parts).isWellFormed = true
      ↔ ∀ part ∈ parts, part.isWellFormed = true := by
  unfold bracketed
  split
  · rename_i empty
    simp [List.isEmpty_iff.mp empty, CodePoint.isSurrogate_ofChar]
  · simp [CodePoint.isSurrogate_ofChar, isWellFormed_lineBreak, isWellFormed_separator,
      Text.isWellFormed_join]

end Json

/-- A scalar that has a form on the data stream: its text is well formed, or its number has a text.
-/
def Scalar.HasForm : Scalar → Prop
  | .text t => t.isWellFormed = true
  | s => s.IsWritable

instance : DecidablePred Scalar.HasForm
  | .text t => inferInstanceAs (Decidable (t.isWellFormed = true))
  | .int i => Nat.decLt i.natAbs _
  | .null | .bool _ | .float _ | .date _ | .moment _ | .bytes _ => .isTrue trivial

def Scalar.isSimple : Scalar → Bool
  | .null | .bool _ | .int _ | .text _ => true
  | _ => false

def Scalar.isText : Scalar → Bool
  | .text _ => true
  | _ => false

namespace Value

mutual

/-- Records as the program makes them: lists and mappings of simple scalars, with texts as keys. -/
def isSimple : Value → Bool
  | .scalar s => s.isSimple
  | .list items => itemsSimple items
  | .map entries => entriesSimple entries
  | _ => false

def itemsSimple : List Value → Bool
  | [] => true
  | x :: rest => isSimple x && itemsSimple rest

def entriesSimple : List (Scalar × Value) → Bool
  | [] => true
  | (k, x) :: rest => k.isText && isSimple x && entriesSimple rest

end

end Value

namespace Json

def IsTold (r : Except Unwritable Text) : Prop := ∃ t, r = .ok t ∧ t.isWellFormed = true

theorem isTold_scalarText {s : Scalar} (simple : s.isSimple = true) :
    IsTold (scalarText .report s) ↔ s.HasForm := by
  cases s with
  | null => simp [IsTold, scalarText, Scalar.HasForm, Scalar.IsWritable]
  | bool b =>
    simp only [IsTold, scalarText, Except.ok.injEq, exists_eq_left', Scalar.HasForm,
      Scalar.IsWritable, iff_true]
    split <;> simp
  | int i =>
    rw [IsTold, scalarText, intText, Scalar.HasForm, Scalar.isWritable_int]
    · simp only [mapError_eq_ok_iff, Numeral.ofInt?_eq_ok_iff]
      constructor
      · rintro ⟨t, ⟨small, -⟩, -⟩
        exact small
      · intro small
        exact ⟨Text.ofInt i, ⟨small, rfl⟩, Text.isWellFormed_ofInt i⟩
    · simp
  | text t => simp [IsTold, scalarText, Style.report, isWellFormed_quoted, Scalar.HasForm]
  | _ => cases simple

def AreTold (r : Except Unwritable (List Text)) : Prop :=
  ∃ ts, r = .ok ts ∧ ∀ t ∈ ts, t.isWellFormed = true

theorem areTold_cons {x : Except Unwritable Text} {r : Except Unwritable (List Text)}
    (start : Text) :
    AreTold (do let t ← x; let ts ← r; return (start ++ t) :: ts)
      ↔ start.isWellFormed = true ∧ IsTold x ∧ AreTold r := by
  simp only [AreTold, IsTold, bind_eq_ok_iff, pure, Except.pure, Except.ok.injEq]
  constructor
  · rintro ⟨_, ⟨t, made, ts, others, rfl⟩, clean⟩
    obtain ⟨here, there⟩ := List.forall_mem_cons.mp clean
    rw [Text.isWellFormed_append, Bool.and_eq_true_iff] at here
    exact ⟨here.1, ⟨t, made, here.2⟩, ts, others, there⟩
  · rintro ⟨first, ⟨t, made, here⟩, ts, others, there⟩
    refine ⟨_, ⟨t, made, ts, others, rfl⟩, List.forall_mem_cons.mpr ⟨?_, there⟩⟩
    rw [Text.isWellFormed_append, first, here]
    rfl

mutual

theorem isTold_valueText (around : List Nat) (level : Nat) (v : Value) (simple : v.isSimple = true) :
    IsTold (valueText .report around level v) ↔ ∀ s ∈ v.scalars, s.HasForm := by
  cases v with
  | scalar s =>
    rw [valueText, isTold_scalarText simple]
    simp [Value.scalars]
  | list items =>
    rw [Value.scalars, ← areTold_itemTexts around (level + 1) items simple, valueText]
    simp [IsTold, AreTold, bind_eq_ok_iff, pure, Except.pure, isWellFormed_bracketed]
  | map entries =>
    rw [Value.scalars, ← areTold_entryTexts around (level + 1) entries simple, valueText]
    simp [IsTold, AreTold, bind_eq_ok_iff, pure, Except.pure, isWellFormed_bracketed]
  | _ => cases simple

theorem areTold_itemTexts (around : List Nat) (level : Nat) (items : List Value)
    (simple : Value.itemsSimple items = true) :
    AreTold (itemTexts .report around level items)
      ↔ ∀ s ∈ Value.scalarsOfItems items, s.HasForm := by
  cases items with
  | nil => simp [AreTold, itemTexts, Value.scalarsOfItems]
  | cons x rest =>
    obtain ⟨here, there⟩ := Bool.and_eq_true_iff.mp simple
    have first := isTold_valueText around level x here
    have others := areTold_itemTexts around level rest there
    rw [Value.scalarsOfItems, List.forall_mem_append, ← first, ← others, itemTexts]
    exact (areTold_cons []).trans (and_iff_right rfl)

theorem areTold_entryTexts (around : List Nat) (level : Nat) (entries : List (Scalar × Value))
    (simple : Value.entriesSimple entries = true) :
    AreTold (entryTexts .report around level entries)
      ↔ ∀ s ∈ Value.scalarsOfEntries entries, s.HasForm := by
  cases entries with
  | nil => simp [AreTold, entryTexts, Value.scalarsOfEntries]
  | cons e rest =>
    obtain ⟨k, x⟩ := e
    simp only [Value.entriesSimple, Bool.and_eq_true] at simple
    obtain ⟨⟨isText, here⟩, there⟩ := simple
    have first := isTold_valueText around level x here
    have others := areTold_entryTexts around level rest there
    cases k with
    | text t =>
      have key : ((quoted false t ++ Text.ofString ": " : Text).isWellFormed = true)
          ↔ (Scalar.text t).HasForm := by
        simp [isWellFormed_quoted, Scalar.HasForm]
      rw [Value.scalarsOfEntries, List.cons_append, List.forall_mem_cons, List.forall_mem_append,
        ← first, ← others, ← key]
      exact areTold_cons (quoted false t ++ Text.ofString ": ")
    | _ => cases isText

end

end Json

namespace Value

theorem itemsSimple_iff (items : List Value) :
    itemsSimple items = true ↔ ∀ x ∈ items, x.isSimple = true := by
  induction items with
  | nil => simp [itemsSimple]
  | cons x rest ih => rw [itemsSimple, Bool.and_eq_true_iff, ih, List.forall_mem_cons]

theorem entriesSimple_iff (entries : List (Scalar × Value)) :
    entriesSimple entries = true ↔ ∀ e ∈ entries, e.1.isText = true ∧ e.2.isSimple = true := by
  induction entries with
  | nil => simp [entriesSimple]
  | cons e rest ih =>
    rw [entriesSimple, Bool.and_eq_true_iff, Bool.and_eq_true_iff, ih, List.forall_mem_cons]

end Value

theorem Operation.toRecord_isSimple (op : Operation) : op.toRecord.isSimple = true := by
  have schemes : Value.itemsSimple (op.security.map Value.text) = true := by
    simp [Value.itemsSimple_iff, Value.text, Value.isSimple, Scalar.isSimple]
  cases reason : op.reason <;>
    simp [toRecord, reason, Value.isSimple, Value.entriesSimple, Value.text, Value.bool, Value.null,
      Scalar.isText, Scalar.isSimple, schemes]

theorem Finding.toRecord_isSimple (f : Finding) : f.toRecord.isSimple = true := rfl

theorem Report.toValue_isSimple (strict : Bool) (r : Report) :
    (r.toValue strict).isSimple = true := by
  have operations : Value.itemsSimple (r.operations.map Operation.toRecord) = true := by
    simp [Value.itemsSimple_iff, Operation.toRecord_isSimple]
  have findings : Value.itemsSimple (r.findings.map Finding.toRecord) = true := by
    simp [Value.itemsSimple_iff, Finding.toRecord_isSimple]
  cases path : r.specPath <;> cases version : r.version <;>
    simp [toValue, toEntries, path, version, Value.isSimple, Value.entriesSimple, Value.text,
      Value.bool, Value.null, Scalar.isText, Scalar.isSimple, operations, findings,
      Summary.toRecord]

theorem Table.mem_entries {headers row : List Text} {e : Scalar × Value}
    (there : e ∈ (headers.zip row).map fun (header, cell) => (Scalar.text header, Value.text cell)) :
    ∃ header ∈ headers, ∃ cell ∈ row, e = (.text header, .text cell) := by
  obtain ⟨pair, zipped, rfl⟩ := List.mem_map.mp there
  exact ⟨pair.1, (List.of_mem_zip zipped).1, pair.2, (List.of_mem_zip zipped).2, rfl⟩

theorem Table.toValue_isSimple (t : Table) : t.toValue.isSimple = true := by
  simp only [toValue, Value.isSimple, Value.itemsSimple_iff, List.forall_mem_map]
  intro row _
  rw [Value.entriesSimple_iff]
  refine Value.forall_ofEntries (K := (·.isText = true)) (V := (·.isSimple = true)) fun e there => ?_
  obtain ⟨header, -, cell, -, rfl⟩ := mem_entries there
  exact ⟨rfl, rfl⟩

theorem Table.toValue_hasForm {t : Table}
    (clean : ∀ row ∈ t.headers :: t.rows, ∀ cell ∈ row, cell.isWellFormed = true) :
    ∀ s ∈ t.toValue.scalars, s.HasForm := by
  obtain ⟨headers, rows⟩ := List.forall_mem_cons.mp clean
  rw [toValue, Value.scalars, Value.scalarsOfItems_eq]
  intro s there
  obtain ⟨v, among, inside⟩ := List.mem_flatMap.mp there
  obtain ⟨row, given, rfl⟩ := List.mem_map.mp among
  rw [Value.scalars, Value.scalarsOfEntries_eq] at inside
  obtain ⟨e, entry, part⟩ := List.mem_flatMap.mp inside
  have formed : e.1.HasForm ∧ ∀ s ∈ e.2.scalars, s.HasForm := by
    refine Value.forall_ofEntries (K := Scalar.HasForm)
      (V := fun v => ∀ s ∈ v.scalars, s.HasForm) (fun e there => ?_) e entry
    obtain ⟨header, isHeader, cell, isCell, rfl⟩ := mem_entries there
    exact ⟨headers header isHeader, List.forall_mem_singleton.mpr (rows row given cell isCell)⟩
  exact (List.forall_mem_cons.mpr formed) s part

/-- A table that can be shown: its cells can be written, or its drawing can. -/
def Table.HasForm (p : Presentation) (t : Table) : Prop :=
  match p.rendering with
  | .json => ∀ s ∈ t.toValue.scalars, s.HasForm
  | .plain => ∀ row ∈ t.headers :: t.rows, ∀ cell ∈ row, cell.isWellFormed = true
  | .rich => ∃ drawn, t.draw p.screen = .ok drawn ∧ drawn.isWellFormed = true

namespace Presentation
variable {p : Presentation}

theorem isWritable_line (t : Text) : (Piece.line t).isWritable = t.isWellFormed := by
  rw [Bool.eq_iff_iff, ← Utf8.unwritable?_eq_none_iff]
  simp [Piece.isWritable]

theorem isWritable_drawing (t : Text) : (Piece.drawing t).isWritable = t.isWellFormed :=
  isWritable_line t

theorem canTell_value_iff {v : Value} (simple : v.isSimple = true) :
    p.CanTell (.value v) ↔ ∀ s ∈ v.scalars, s.HasForm := by
  rw [← Json.isTold_valueText [] 0 v simple]
  simp [CanTell, pieces, bind_eq_ok_iff, valueLine, mapError_eq_ok_iff, pure, Except.pure,
    isWritable_line, Json.IsTold, Json.print]

theorem canTell_table_iff (t : Table) : p.CanTell (.table t) ↔ t.HasForm p := by
  unfold Table.HasForm
  cases rendering : p.rendering with
  | json =>
    simp only
    rw [← canTell_value_iff (p := p) t.toValue_isSimple]
    simp only [CanTell, pieces, tablePieces, rendering]
  | plain =>
    have lines : (∀ line ∈ t.toLines, line.isWellFormed = true)
        ↔ ∀ row ∈ t.headers :: t.rows, ∀ cell ∈ row, cell.isWellFormed = true := by
      simp only [Table.toLines, List.forall_mem_map]
      refine forall₂_congr fun row _ => Text.isWellFormed_join _ ?_ row
      simp
    rw [← lines]
    simp [CanTell, pieces, tablePieces, rendering, isWritable_line]
  | rich =>
    cases drawn : t.draw p.screen <;>
      simp [CanTell, pieces, tablePieces, rendering, drawn, isWritable_drawing]

end Presentation

namespace Report
variable {p : Presentation} {strict : Bool} {r : Report}

def remarks (strict : Bool) (r : Report) : List Emission :=
  [r.verdict strict] ++ r.counts ++ r.advice strict

/-- A report that is not skipped is told by its findings and the remarks, unless it is a record. -/
theorem emissions_eq {rendering : Rendering} (other : rendering ≠ .json)
    (unskipped : r.skipped = false) : r.emissions rendering strict
      = (if r.findings.isEmpty then [] else [.table (Finding.table r.findings)])
        ++ r.remarks strict := by
  simp [emissions, other, unskipped, remarks]

theorem exists_remark : ∀ e ∈ r.remarks strict, ∃ kind message, e = .remark kind message := by
  simp only [remarks, List.forall_mem_append, List.forall_mem_singleton]
  refine ⟨⟨?_, by simp [counts]⟩, ?_⟩
  · unfold verdict
    repeat' split
    all_goals simp
  · unfold advice
    repeat' split
    all_goals simp

theorem canTell_remarks : ∀ e ∈ r.remarks strict, p.CanTell e := by
  intro e said
  obtain ⟨kind, message, rfl⟩ := exists_remark e said
  exact p.canTell_remark kind message

end Report

namespace Answer
variable {p : Presentation} {strict : Bool}

/-- An answer that can be shown: a report as a record, or else the tables in an answer. -/
def HasForm (p : Presentation) (strict : Bool) : Answer → Prop
  | .report r =>
    if p.rendering = .json then ∀ s ∈ (r.toValue strict).scalars, s.HasForm
    else r.skipped = true ∨ r.findings = [] ∨ (Finding.table r.findings).HasForm p
  | .routes ops => ops = [] ∨ (Operation.table ops).HasForm p

theorem canBeTold_iff (a : Answer) : a.CanBeTold p strict ↔ a.HasForm p strict := by
  cases a with
  | routes ops =>
    cases ops with
    | nil => simp [CanBeTold, HasForm, emissions, Presentation.canTell_remark]
    | cons op rest => simp [CanBeTold, HasForm, emissions, Presentation.canTell_table_iff]
  | report r =>
    simp only [CanBeTold, HasForm, emissions]
    split
    · rename_i json
      simp [Report.emissions, json, Presentation.canTell_value_iff (r.toValue_isSimple strict)]
    · rename_i other
      cases skipped : r.skipped with
      | true => simp [Report.emissions, other, skipped, Presentation.canTell_remark]
      | false =>
        rw [Report.emissions_eq other skipped, List.forall_mem_append,
          and_iff_left Report.canTell_remarks]
        cases found : r.findings with
        | nil => simp
        | cons f rest => simp [Presentation.canTell_table_iff]

end Answer
end ExposureLint
