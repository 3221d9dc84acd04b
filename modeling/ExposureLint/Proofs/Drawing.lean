import Mathlib
import ExposureLint.Proofs.JsonNumber
import ExposureLint.Proofs.Tellable

/-!
Drawing a table of plain cells. Cells in which no bracket opens a tag are read as they stand, with
no style of their own; laying out and painting such cells only leaves out, repeats and pads, so the
drawing exists on every screen and can be written.
-/
namespace ExposureLint

/-! ### Texts -/

theorem getD_all {α : Type} {P : α → Prop} {xs : List α} {otherwise : α}
    (all : ∀ x ∈ xs, P x) (absent : P otherwise) (n : Nat) : P (xs.getD n otherwise) := by
  rw [List.getD_eq_getElem?_getD]
  cases here : xs[n]? with
  | none => exact absent
  | some x => exact all x (List.mem_of_getElem? here)

namespace Text
variable {t : Text} {n : Nat}

theorem isWellFormed_take (good : t.isWellFormed = true) : isWellFormed (t.take n) = true :=
  isWellFormed_of_subset good (List.take_subset n t)

theorem isWellFormed_drop (good : t.isWellFormed = true) : isWellFormed (t.drop n) = true :=
  isWellFormed_of_subset good (List.drop_subset n t)

@[simp] theorem isWellFormed_spaces (n : Nat) : (spaces n).isWellFormed = true :=
  isWellFormed_replicate_ofChar n ' '

theorem isWellFormed_dropEndWhile {p : CodePoint → Bool} (good : t.isWellFormed = true) :
    (dropEndWhile p t).isWellFormed = true :=
  isWellFormed_of_subset good fun c there => by
    have kept := (List.dropWhile_sublist p).subset (List.mem_reverse.mp there)
    exact List.mem_reverse.mp kept

theorem isWellFormed_graphemesFrom (good : t.isWellFormed = true) {before : List Grapheme}
    {last : Option CodePoint} {joined : Bool}
    (done : ∀ g ∈ before, g.text.isWellFormed = true) :
    ∀ g ∈ graphemesFrom before last joined t, g.text.isWellFormed = true := by
  induction t generalizing before last joined with
  | nil => simpa [graphemesFrom] using done
  | cons c rest ih =>
    rw [isWellFormed_cons, Bool.and_eq_true_iff, Bool.not_eq_true'] at good
    obtain ⟨here, there⟩ := good
    have attached : ∀ g ∈ Grapheme.attach c before, g.text.isWellFormed = true := by
      cases before with
      | nil => simp [Grapheme.attach, here]
      | cons g more => simp_all [Grapheme.attach, Grapheme.extend]
    unfold graphemesFrom
    dsimp only
    repeat' split
    all_goals
      refine ih there ?_
      first
        | exact attached
        | simp_all

theorem isWellFormed_resized (good : t.isWellFormed = true) (columns : Nat) :
    (resized columns t).isWellFormed = true := by
  have pieces : ∀ g ∈ t.graphemes, g.text.isWellFormed = true :=
    isWellFormed_graphemesFrom good (List.forall_mem_nil _)
  have cut (left : Nat) (gs : List Grapheme) (clean : ∀ g ∈ gs, g.text.isWellFormed = true) :
      (takeColumns left gs).isWellFormed = true := by
    induction gs generalizing left with
    | nil => rfl
    | cons g rest ih =>
      obtain ⟨here, there⟩ := List.forall_mem_cons.mp clean
      unfold takeColumns
      repeat' split
      all_goals simp [here, ih _ there]
  unfold resized
  dsimp only
  repeat' split
  all_goals simp [good, cut _ _ pieces]

end Text

/-! ### Styled texts -/

/-- A style that leads nowhere, and so writes nothing but numbers. -/
def Style.IsLocal (s : Style) : Prop := s.link = Option.none

/-- A span whose style needs not be looked up. -/
def Span.IsClean (s : Span) : Prop := ∃ style, s.style = .known style ∧ style.IsLocal

/-- A well-formed text whose styles are known and lead nowhere. -/
structure Styled.IsClean (s : Styled) : Prop where
  text : s.text.isWellFormed = true
  base : ∀ style ∈ s.base, style.IsLocal
  spans : ∀ span ∈ s.spans, span.IsClean

namespace Styled
variable {s : Styled} {t : Text}

theorem isClean_plain (good : t.isWellFormed = true) : (plain t).IsClean :=
  ⟨good, by simp [plain], List.forall_mem_nil _⟩

namespace IsClean

theorem clip (clean : s.IsClean) (first stop : Nat) : (s.clip first stop).IsClean where
  text := Text.isWellFormed_drop (Text.isWellFormed_take clean.text)
  base := clean.base
  spans := by
    intro span kept
    obtain ⟨whole, there, cut⟩ := List.mem_filterMap.mp kept
    obtain ⟨style, same, isLocal⟩ := clean.spans whole there
    unfold Span.clip? at cut
    dsimp only at cut
    split at cut
    · cases cut
      exact ⟨style, same, isLocal⟩
    · cases cut

theorem divide (clean : s.IsClean) (cuts : List Nat) : ∀ part ∈ s.divide cuts, part.IsClean := by
  have fromFirst (first : Nat) : ∀ part ∈ s.divideFrom first cuts, part.IsClean := by
    induction cuts generalizing first with
    | nil => exact List.forall_mem_singleton.mpr (clean.clip _ _)
    | cons stop rest ih => exact List.forall_mem_cons.mpr ⟨clean.clip _ _, ih stop⟩
  unfold Styled.divide
  split
  · exact List.forall_mem_singleton.mpr clean
  · exact fromFirst 0

theorem lines (clean : s.IsClean) : ∀ line ∈ s.lines, line.IsClean :=
  fun line kept => clean.divide _ line (List.mem_filter.mp kept).1

theorem withText (clean : s.IsClean) (good : t.isWellFormed = true) : (s.withText t).IsClean := by
  unfold Styled.withText
  split
  · refine ⟨good, clean.base, ?_⟩
    simp only [List.forall_mem_map]
    exact fun span kept => clean.spans span (List.mem_filter.mp kept).1
  · exact ⟨good, clean.base, clean.spans⟩

theorem padLeft (clean : s.IsClean) (n : Nat) : (s.padLeft n).IsClean where
  text := by simp [Styled.padLeft, clean.text]
  base := clean.base
  spans := List.forall_mem_map.mpr clean.spans

theorem padRight (clean : s.IsClean) (n : Nat) : (s.padRight n).IsClean where
  text := by simp [Styled.padRight, clean.text]
  base := clean.base
  spans := clean.spans

theorem stretch (clean : s.IsClean) (n : Nat) : (s.stretch n).IsClean where
  text := by simp [Styled.stretch, clean.text]
  base := clean.base
  spans := by
    simp only [Styled.stretch, List.forall_mem_map]
    intro span there
    split
    · exact clean.spans span there
    · exact clean.spans span there

end IsClean

theorem withoutTabs_isClean {parts : List Styled} (column : Nat)
    (clean : ∀ part ∈ parts, part.IsClean) : ∀ part ∈ withoutTabs column parts, part.IsClean := by
  induction parts generalizing column with
  | nil => exact List.forall_mem_nil _
  | cons part rest ih =>
    obtain ⟨here, there⟩ := List.forall_mem_cons.mp clean
    unfold withoutTabs
    split
    · have spaced : ({ part with text := part.text.dropLast ++ Text.spaces 1 } : Styled).IsClean := by
        refine ⟨?_, here.base, here.spans⟩
        have start : Text.isWellFormed part.text.dropLast = true :=
          Text.isWellFormed_of_subset here.text (List.dropLast_subset _)
        simp [start]
      exact List.forall_mem_cons.mpr ⟨spaced.stretch _, ih _ there⟩
    · exact List.forall_mem_cons.mpr ⟨here, ih _ there⟩

theorem spansOf_isClean {parts : List Styled} (pos : Nat)
    (clean : ∀ part ∈ parts, part.IsClean) : ∀ span ∈ spansOf pos parts, span.IsClean := by
  induction parts generalizing pos with
  | nil => exact List.forall_mem_nil _
  | cons part rest ih =>
    obtain ⟨here, there⟩ := List.forall_mem_cons.mp clean
    simp only [spansOf, List.forall_mem_append, List.forall_mem_map]
    refine ⟨⟨?_, here.spans⟩, ih _ there⟩
    intro span told
    obtain ⟨style, known, rfl⟩ := Option.map_eq_some_iff.mp (Option.mem_toList.mp told)
    exact ⟨style, rfl, here.base style known⟩

theorem IsClean.expandTabs (clean : s.IsClean) : s.expandTabs.IsClean := by
  unfold Styled.expandTabs
  split
  · exact clean
  · have cut : ∀ part ∈ (s.divide ((positions '\t' s.text).map (· + 1))).filter
        (fun part => !part.text.isEmpty), part.IsClean :=
      fun part kept => clean.divide _ part (List.mem_filter.mp kept).1
    have parts := withoutTabs_isClean 0 cut
    refine ⟨?_, clean.base, spansOf_isClean 0 parts⟩
    rw [Text.isWellFormed_iff]
    intro c there
    obtain ⟨part, among, inside⟩ := List.mem_flatMap.mp there
    exact Text.isWellFormed_iff.mp (parts part among).text c inside

theorem IsClean.trimEnd (clean : s.IsClean) (columns : Nat) : (s.trimEnd columns).IsClean := by
  unfold Styled.trimEnd
  dsimp only
  split
  · exact clean
  · exact clean.withText (Text.isWellFormed_take clean.text)

theorem IsClean.truncate (clean : s.IsClean) (columns : Nat) (rule : Rule) :
    (s.truncate columns rule).IsClean := by
  have resized (n : Nat) := Text.isWellFormed_resized clean.text n
  unfold Styled.truncate
  repeat' split
  · exact clean
  · exact clean.withText (resized columns)
  · refine clean.withText ?_
    rw [Text.isWellFormed_append, resized]
    decide

theorem IsClean.aligned (clean : s.IsClean) (columns : Nat) (rule : Rule) :
    (s.aligned columns rule).IsClean := by
  unfold Styled.aligned
  split
  · exact (clean.truncate columns rule).padRight _
  · have ended := clean.withText (Text.isWellFormed_dropEndWhile (p := CodePoint.isBlank) clean.text)
    exact ((ended.truncate columns rule).padLeft _).padRight _

theorem IsClean.laidOut (clean : s.IsClean) (columns : Nat) (rule : Rule) :
    ∀ line ∈ s.laidOut columns rule, line.IsClean := by
  intro line there
  obtain ⟨whole, among, inside⟩ := List.mem_flatMap.mp there
  obtain ⟨part, broken, rfl⟩ := List.mem_map.mp inside
  have parts := (clean.lines whole among).expandTabs.divide _ part broken
  exact ((parts.trimEnd columns).aligned columns rule).truncate columns rule

end Styled

/-! ### Runs -/

/-- A step that cannot fail, and gives only what satisfies `Q`. -/
abbrev Gives {ε α : Type} (Q : α → Prop) (x : Except ε α) : Prop := Yields (fun _ => False) Q x

theorem Gives.exists {ε α : Type} {Q : α → Prop} {x : Except ε α} (gives : Gives Q x) :
    ∃ a, x = .ok a ∧ Q a := by
  cases gives with
  | ok good => exact ⟨_, rfl, good⟩
  | error impossible => exact impossible.elim

structure Run.IsClean (r : Run) : Prop where
  text : r.text.isWellFormed = true
  style : r.style.IsLocal

def Run.AreClean (line : List Run) : Prop := ∀ r ∈ line, r.IsClean

namespace Style
variable {upper lower : Style}

theorem isLocal_none : Style.none.IsLocal := rfl

theorem IsLocal.onto (above : upper.IsLocal) (below : lower.IsLocal) :
    (upper.onto lower).IsLocal := by
  rw [IsLocal] at *
  simp [Style.onto, above, below]

theorem isLocal_stack {styles : List Style} (all : ∀ s ∈ styles, s.IsLocal) :
    (stack styles).IsLocal := by
  have fold (done : Style) (good : done.IsLocal) :
      (styles.foldl (fun lower upper => upper.onto lower) done).IsLocal := by
    induction styles generalizing done with
    | nil => exact good
    | cons s rest ih =>
      obtain ⟨here, there⟩ := List.forall_mem_cons.mp all
      exact ih there _ (here.onto good)
  exact fold _ isLocal_none

end Style

namespace Run
variable {line : List Run}

theorem isClean_plain {t : Text} (good : t.isWellFormed = true) : (plain t).IsClean :=
  ⟨good, Style.isLocal_none⟩

theorem isClean_blank (n : Nat) {style : Style} (isLocal : style.IsLocal) :
    (blank n style).IsClean :=
  ⟨Text.isWellFormed_spaces n, isLocal⟩

theorem isClean_above {base : Style} {r : Run} (isLocal : base.IsLocal) (clean : r.IsClean) :
    (above base r).IsClean :=
  ⟨clean.text, clean.style.onto isLocal⟩

theorem piecesFrom_isWellFormed {t : Text} (edges : List Nat) (pos : Nat)
    (good : t.isWellFormed = true) :
    ∀ piece ∈ piecesFrom edges pos t, piece.2.isWellFormed = true := by
  induction t generalizing pos with
  | nil => exact List.forall_mem_nil _
  | cons c rest ih =>
    rw [Text.isWellFormed_cons, Bool.and_eq_true_iff] at good
    have others := ih (pos + 1) good.2
    have alone : Text.isWellFormed [c] = true := by simpa using good.1
    unfold piecesFrom
    split
    · exact List.forall_mem_singleton.mpr alone
    · rename_i start piece more found
      rw [found] at others
      obtain ⟨next, rest⟩ := List.forall_mem_cons.mp others
      split
      · exact List.forall_mem_cons.mpr ⟨alone, List.forall_mem_cons.mpr ⟨next, rest⟩⟩
      · refine List.forall_mem_cons.mpr ⟨?_, rest⟩
        rw [Text.isWellFormed_cons, good.1, next]
        rfl

theorem ofStyled_gives {s : Styled} (clean : s.IsClean) : Gives AreClean (ofStyled s) := by
  unfold ofStyled
  refine .bind (.mapM (R := fun resolved => resolved.2.IsLocal) fun span there => ?_)
    fun spans resolved => .ok ?_
  · obtain ⟨style, known, isLocal⟩ := clean.spans span there
    rw [known]
    exact .ok isLocal
  · intro r made
    obtain ⟨piece, among, rfl⟩ := List.mem_map.mp made
    refine ⟨piecesFrom_isWellFormed _ 0 clean.text piece among, Style.isLocal_stack ?_⟩
    simp only [List.forall_mem_append, List.forall_mem_map]
    refine ⟨fun style told => clean.base style (Option.mem_toList.mp told), fun span kept => ?_⟩
    exact resolved span (List.mem_filter.mp kept).1

theorem takeColumns_areClean (left : Nat) (clean : AreClean line) :
    AreClean (takeColumns left line) := by
  induction line generalizing left with
  | nil => exact List.forall_mem_nil _
  | cons r rest ih =>
    obtain ⟨here, there⟩ := List.forall_mem_cons.mp clean
    unfold takeColumns
    dsimp only
    split
    · exact List.forall_mem_cons.mpr ⟨here, ih _ there⟩
    · exact List.forall_mem_singleton.mpr ⟨Text.isWellFormed_resized here.text _, here.style⟩

theorem cropped_areClean (columns : Nat) (clean : AreClean line) :
    AreClean (cropped columns line) := by
  unfold cropped
  split
  · exact takeColumns_areClean _ clean
  · exact clean

theorem fitted_areClean (columns : Nat) {style : Style} (isLocal : style.IsLocal)
    (clean : AreClean line) : AreClean (fitted columns style line) := by
  unfold fitted
  split
  · exact List.forall_mem_append.mpr ⟨clean, List.forall_mem_singleton.mpr (isClean_blank _ isLocal)⟩
  · exact cropped_areClean _ clean

end Run

/-! ### Rows -/

def Run.LinesClean (lines : List (List Run)) : Prop := ∀ line ∈ lines, Run.AreClean line

theorem Column.linesOf_gives (c : Column) {width : Nat} {base : Style} {t : Styled}
    (isLocal : base.IsLocal) (clean : t.IsClean) :
    Gives Run.LinesClean (c.linesOf width base t) := by
  unfold Column.linesOf
  refine .ite (.ok (List.forall_mem_nil _)) (.mapM fun line there => ?_)
  refine (Run.ofStyled_gives (clean.laidOut _ _ line there)).bind fun runs good => .ok ?_
  have side (n : Nat) : Run.AreClean (if n == 0 then [] else [Run.blank n .none]) := by
    split
    · exact List.forall_mem_nil _
    · exact List.forall_mem_singleton.mpr (Run.isClean_blank _ Style.isLocal_none)
  refine Run.fitted_areClean width isLocal ?_
  refine List.forall_mem_map.mpr fun r among => Run.isClean_above isLocal ?_
  refine (List.forall_mem_append.mpr ⟨List.forall_mem_append.mpr ⟨side _, ?_⟩, side _⟩) r among
  exact Run.fitted_areClean _ Style.isLocal_none good

namespace Grid

structure Cell.IsClean (c : Cell) : Prop where
  base : c.base.IsLocal
  lines : Run.LinesClean c.lines

theorem levelled_linesClean (stand : Stand) {cells : List Cell} (clean : ∀ c ∈ cells, c.IsClean) :
    ∀ lines ∈ levelled stand cells, Run.LinesClean lines := by
  unfold levelled
  refine List.forall_mem_map.mpr fun c there => ?_
  have alone {style : Style} (isLocal : style.IsLocal) : Run.AreClean [Run.blank c.width style] :=
    List.forall_mem_singleton.mpr (Run.isClean_blank _ isLocal)
  have missing (n : Nat) : Run.LinesClean (List.replicate n [Run.blank c.width c.base]) :=
    fun line among => List.eq_of_mem_replicate among ▸ alone (clean c there).base
  dsimp only
  repeat' split
  · exact List.forall_mem_singleton.mpr (alone Style.isLocal_none)
  · exact List.forall_mem_append.mpr ⟨(clean c there).lines, missing _⟩
  · exact List.forall_mem_append.mpr ⟨missing _, (clean c there).lines⟩

/-- Where what is put together from clean parts is clean, so is a row of clean cells. -/
theorem rowLines_linesClean (stand : Stand) {across : List (List Run) → List Run}
    {cells : List Cell} (together : ∀ parts, Run.LinesClean parts → Run.AreClean (across parts))
    (clean : ∀ c ∈ cells, c.IsClean) : Run.LinesClean (rowLines stand across cells) := by
  refine List.forall_mem_map.mpr fun n _ => together _ (List.forall_mem_map.mpr fun lines there => ?_)
  exact getD_all (levelled_linesClean stand clean lines there) (List.forall_mem_nil _) n

end Grid

/-- A painted run has numbers around its text, and nothing else. -/
theorem Screen.isWellFormed_paint (screen : Screen) {r : Run} (clean : r.IsClean) :
    (screen.paint r).isWellFormed = true := by
  have isLocal : (if screen.colored then r.style else r.style.withoutColor).IsLocal := by
    split
    · exact clean.style
    · exact clean.style
  unfold Screen.paint
  split
  · exact clean.text
  · rename_i palette
    have numbers (codes : List Nat) : (Text.join ";" (codes.map Text.ofNat)).isWellFormed = true :=
      (Text.isWellFormed_join _ (by simp) _).mpr (List.forall_mem_map.mpr fun n _ => by simp)
    rw [Style.IsLocal] at isLocal
    simp only [Style.paint, isLocal]
    repeat' split
    all_goals simp [clean.text, numbers]

theorem Screen.isWellFormed_textOf (screen : Screen) {lines : List (List Run)}
    (clean : Run.LinesClean lines) : (screen.textOf lines).isWellFormed = true := by
  rw [Screen.textOf, Text.isWellFormed_iff]
  intro c there
  obtain ⟨line, among, inside⟩ := List.mem_flatMap.mp there
  obtain painted | feed := List.mem_append.mp inside
  · obtain ⟨r, cropped, char⟩ := List.mem_flatMap.mp painted
    have good := Run.cropped_areClean screen.columns (clean line among) r cropped
    exact Text.isWellFormed_iff.mp (screen.isWellFormed_paint good) c char
  · rw [List.mem_singleton.mp feed]
    exact CodePoint.isSurrogate_ofChar _

/-! ### Plain texts -/

theorem CodePoint.eq_false_of_isAsciiDigit {c : CodePoint} (isDigit : c.isAsciiDigit = true)
    (d : Char) (apart : (CodePoint.ofChar d).isAsciiDigit = false) :
    (c == CodePoint.ofChar d) = false := by
  refine beq_eq_false_iff_ne.mpr ?_
  rintro rfl
  cases isDigit.symm.trans apart

/-- Whether there is no short name of a picture, since a blank follows every colon. -/
def Emoji.isNameless : Text → Bool
  | [] => true
  | c :: rest => (!isColon c || rest.head?.all CodePoint.isBlank) && isNameless rest

namespace Emoji
variable {t : Text}

theorem inside?_of_blank (blank : t.head?.all CodePoint.isBlank = true) : inside? t = none := by
  cases t with
  | nil => rfl
  | cons c rest =>
    have isBlank : c.isBlank = true := by simpa using blank
    have apart : isColon c = false := by
      refine beq_eq_false_iff_ne.mpr ?_
      rintro rfl
      cases isBlank
    simp [inside?, isBlank, apart]

theorem replace_of_isNameless (nameless : isNameless t = true) : replace t = t := by
  have fromStart : replaceFrom 0 t = t := by
    induction t with
    | nil => rfl
    | cons c rest ih =>
      simp only [isNameless, Bool.and_eq_true, Bool.or_eq_true, Bool.not_eq_true'] at nameless
      obtain ⟨here, there⟩ := nameless
      have noName : (if isColon c then inside? rest else none) = none := by
        obtain other | blank := here
        · simp [other]
        · simp [inside?_of_blank blank]
      simp only [replaceFrom, noName, ih there]
  exact fromStart

theorem isNameless_of_noColon (none : ∀ c ∈ t, isColon c = false) : isNameless t = true := by
  induction t with
  | nil => rfl
  | cons c rest ih =>
    obtain ⟨here, there⟩ := List.forall_mem_cons.mp none
    simp [isNameless, here, ih there]

end Emoji

namespace Markup
variable {t : Text}

/-- A text with no bracket that could open a tag, which shows a well-formed text. -/
structure IsPlain (t : Text) : Prop where
  closed : ∀ c ∈ t, isOpening c = false
  shown : (Emoji.replace t).isWellFormed = true

theorem escapedTagAt?_eq_none (closed : ∀ c ∈ t, isOpening c = false) : escapedTagAt? t = none := by
  have tail : ∀ c ∈ t.drop (t.takeWhile isBackslash).length, isOpening c = false :=
    fun c there => closed c (List.mem_of_mem_drop there)
  rw [escapedTagAt?, Option.map_eq_none_iff]
  unfold tagAt?
  split
  · rename_i bracket first more start
    rw [start] at tail
    simp [tail bracket List.mem_cons_self]
  · rfl

theorem partsFrom_eq (closed : ∀ c ∈ t, isOpening c = false) (pos : Nat) (before : Text) :
    partsFrom pos 0 before t = plainParts (t.reverse ++ before) := by
  induction t generalizing pos before with
  | nil => rfl
  | cons c rest ih =>
    rw [partsFrom, escapedTagAt?_eq_none closed, ih (List.forall_mem_cons.mp closed).2]
    simp

theorem parts_eq (closed : ∀ c ∈ t, isOpening c = false) : parts t = plainParts t.reverse := by
  rw [parts, partsFrom_eq closed, List.append_nil]

theorem unescapeBrackets_eq (closed : ∀ c ∈ t, isOpening c = false) : unescapeBrackets t = t := by
  induction t with
  | nil => rfl
  | cons c rest ih =>
    obtain ⟨-, there⟩ := List.forall_mem_cons.mp closed
    cases rest with
    | nil => rfl
    | cons d more =>
      rw [unescapeBrackets, (List.forall_mem_cons.mp there).1, ih there]
      simp

theorem IsPlain.read_gives (isPlain : IsPlain t) : Gives Styled.IsClean (read t) := by
  have visible : (Markup.shown t).isWellFormed = true := by
    rw [Markup.shown, unescapeBrackets_eq isPlain.closed]
    exact Text.isWellFormed_of_subset isPlain.shown fun c kept => (List.mem_filter.mp kept).1
  have finished {text : Text} (good : text.isWellFormed = true) :
      (Reading.finish ⟨text, [], []⟩).IsClean :=
    ⟨good, by simp [Reading.finish], by simp [Reading.finish]⟩
  rw [read, parts_eq isPlain.closed, plainParts]
  split
  · exact .ok (finished rfl)
  · rw [List.reverse_reverse]
    exact .ok (finished visible)

end Markup

/-! ### Tables -/

namespace Table
variable {t : Table}

structure IsPlain (t : Table) : Prop where
  title : Markup.IsPlain t.title
  cells : ∀ row ∈ t.headers :: t.rows, ∀ cell ∈ row, Markup.IsPlain cell

def ColumnsClean (columns : List (List Styled)) : Prop :=
  ∀ column ∈ columns, ∀ s ∈ column, s.IsClean

theorem markup_isPlain_nil : Markup.IsPlain [] := ⟨List.forall_mem_nil _, rfl⟩

theorem IsPlain.columnsOf_gives (isPlain : t.IsPlain) (limit : Nat) :
    Gives ColumnsClean (t.columnsOf limit) := by
  refine .mapM fun n _ => .mapM fun row there => .ite ?_ ?_
  · refine Markup.IsPlain.read_gives ?_
    obtain ⟨given, among, rfl⟩ := List.mem_map.mp there
    have plain : ∀ cell ∈ given ++ List.replicate (t.breadth - given.length) [],
        Markup.IsPlain cell := by
      refine List.forall_mem_append.mpr ⟨isPlain.cells given among, fun cell filled => ?_⟩
      exact List.eq_of_mem_replicate filled ▸ markup_isPlain_nil
    exact getD_all plain markup_isPlain_nil n
  · exact .ok (Styled.isClean_plain rfl)

theorem across_areClean (isHeader : Bool) {parts : List (List Run)} (clean : Run.LinesClean parts) :
    Run.AreClean (across isHeader parts) := by
  have edge : (Run.plain (if isHeader then "┃" else "│")).IsClean := by
    cases isHeader <;> exact Run.isClean_plain (Text.isWellFormed_ofString _)
  refine List.forall_mem_cons.mpr ⟨edge, fun r there => ?_⟩
  obtain ⟨_, among, inside⟩ := List.mem_flatten.mp there
  obtain ⟨part, given, rfl⟩ := List.mem_map.mp among
  exact (List.forall_mem_append.mpr ⟨clean part given, List.forall_mem_singleton.mpr edge⟩) r inside

theorem border_areClean (widths : List Nat) (first along between last : Char) :
    Run.AreClean (border widths first along between last) := by
  refine List.forall_mem_singleton.mpr (Run.isClean_plain ?_)
  have parts : (Text.join [CodePoint.ofChar between]
      (widths.map fun w => List.replicate w (CodePoint.ofChar along))).isWellFormed = true := by
    refine (Text.isWellFormed_join _ ?_ _).mpr (List.forall_mem_map.mpr fun w _ => by simp)
    simp [CodePoint.isSurrogate_ofChar]
  simp [CodePoint.isSurrogate_ofChar, parts]

theorem rowLines_gives (isHeader : Bool) (widths : List Nat) {row : List Styled}
    (clean : ∀ s ∈ row, s.IsClean) : Gives Run.LinesClean (rowLines isHeader widths row) := by
  have isLocal : (if isHeader then headerStyle else Style.none).IsLocal := by
    cases isHeader <;> rfl
  refine .bind (.mapM (R := Grid.Cell.IsClean) fun entry there => ?_) fun cells good => .ok ?_
  · have text := clean entry.2 (List.of_mem_zip there).2
    exact (column.linesOf_gives isLocal text).bind fun lines good => .ok ⟨isLocal, good⟩
  · exact Grid.rowLines_linesClean _ (fun _ => across_areClean isHeader) good

theorem titleLines_gives (columns : Nat) {title : Styled} (clean : title.IsClean) :
    Gives Run.LinesClean (titleLines columns title) := by
  have styled : ({ title with base := some titleStyle } : Styled).IsClean := by
    refine ⟨clean.text, ?_, clean.spans⟩
    rintro style ⟨⟩
    rfl
  exact .mapM fun line there => Run.ofStyled_gives (styled.laidOut _ _ line there)

theorem drawnLines_gives (widths : List Nat) {title : Option Styled} {columns : List (List Styled)}
    (titled : ∀ s ∈ title, s.IsClean) (clean : ColumnsClean columns) :
    Gives Run.LinesClean (drawnLines widths title columns) := by
  have row (n : Nat) : ∀ s ∈ columns.map fun column => column.getD n (.plain []), s.IsClean := by
    exact List.forall_mem_map.mpr fun column there =>
      getD_all (clean column there) (Styled.isClean_plain rfl) n
  unfold drawnLines
  extract_lets frame rowOf height below
  have rest (first : List (List Run)) (good : Run.LinesClean first) :
      Gives Run.LinesClean (below first) := by
    refine (rowLines_gives true widths (row 0)).bind fun header top => ?_
    refine .bind (.mapM fun n _ => rowLines_gives false widths (row (n + 1))) fun rows body =>
      .ok ?_
    simp only [Run.LinesClean, List.forall_mem_append, List.forall_mem_singleton]
    refine ⟨⟨⟨⟨⟨good, border_areClean _ _ _ _ _⟩, top⟩, border_areClean _ _ _ _ _⟩, ?_⟩,
      border_areClean _ _ _ _ _⟩
    intro line there
    obtain ⟨lines, among, inside⟩ := List.mem_flatten.mp there
    exact body lines among line inside
  cases title with
  | none => exact rest [] (List.forall_mem_nil _)
  | some s => exact (titleLines_gives _ (titled s rfl)).bind rest

/-- A table of plain texts can be drawn on every screen, and its drawing can be written. -/
theorem IsPlain.draw_gives (isPlain : t.IsPlain) (screen : Screen) :
    Gives (fun drawn => drawn.isWellFormed = true) (t.draw screen) := by
  have titled : Gives (fun title : Option Styled => ∀ s ∈ title, s.IsClean)
      (some <$> Markup.read t.title) := by
    refine isPlain.title.read_gives.map fun s clean => ?_
    rintro _ ⟨⟩
    exact clean
  unfold Table.draw
  refine .ite (.ok rfl) (.ite (.ok (Text.isWellFormed_ofString _)) ?_)
  refine (isPlain.columnsOf_gives _).bind fun columns clean => ?_
  extract_lets finish
  have rest (title : Option Styled) (good : ∀ s ∈ title, s.IsClean) :
      Gives (fun drawn => drawn.isWellFormed = true) (finish title) :=
    .bind ((drawnLines_gives _ good clean).mapError fun _ => id) fun lines drawn =>
      .ok (screen.isWellFormed_textOf drawn)
  exact .ite (.bind (.ok (by simp)) rest) (titled.bind rest)

/-- A table of plain texts that are well formed can be shown in every rendering. -/
theorem hasForm_of_plain (title : Markup.IsPlain t.title)
    (cells : ∀ row ∈ t.headers :: t.rows, ∀ cell ∈ row,
      cell.isWellFormed = true ∧ Markup.IsPlain cell) (p : Presentation) : t.HasForm p := by
  have clean : ∀ row ∈ t.headers :: t.rows, ∀ cell ∈ row, cell.isWellFormed = true :=
    fun row there cell inside => (cells row there cell inside).1
  have isPlain : t.IsPlain := ⟨title, fun row there cell inside => (cells row there cell inside).2⟩
  unfold Table.HasForm
  cases p.rendering with
  | json => exact toValue_hasForm clean
  | plain => exact clean
  | rich => exact (isPlain.draw_gives p.screen).exists

end Table

/-! ### Answers -/

theorem Markup.isPlain_of_words {t : Text}
    (words : ∀ c ∈ t, Emoji.isColon c = false ∧ isOpening c = false)
    (clean : t.isWellFormed = true) : IsPlain t where
  closed := fun c there => (words c there).2
  shown := by
    rw [Emoji.replace_of_isNameless (Emoji.isNameless_of_noColon fun c there => (words c there).1)]
    exact clean

theorem Markup.isPlain_counted {first last : Text} (n : Nat)
    (words : ∀ c ∈ first ++ last, Emoji.isColon c = false ∧ isOpening c = false)
    (clean : (first ++ last).isWellFormed = true) : IsPlain (first ++ Text.ofNat n ++ last) := by
  rw [List.forall_mem_append] at words
  refine isPlain_of_words ?_ (by simpa using clean)
  refine List.forall_mem_append.mpr ⟨List.forall_mem_append.mpr ⟨words.1, ?_⟩, words.2⟩
  intro c there
  have other := CodePoint.eq_false_of_isAsciiDigit (Text.isAsciiDigit_of_mem_ofNat there)
  exact ⟨other ':' rfl, other '[' rfl⟩

theorem Markup.isPlain_headers :
    ∀ cell ∈ Operation.headers ++ Finding.headers, cell.isWellFormed = true ∧ IsPlain cell := by
  have words : ∀ cell ∈ Operation.headers ++ Finding.headers, cell.isWellFormed = true
      ∧ ∀ c ∈ cell, Emoji.isColon c = false ∧ isOpening c = false := by decide
  exact fun cell there => ⟨(words cell there).1,
    isPlain_of_words (words cell there).2 (words cell there).1⟩

/-- The cells about a finding are texts of its record. -/
theorem Finding.row_isWellFormed {f : Finding} (clean : ∀ s ∈ f.toRecord.scalars, s.HasForm) :
    ∀ cell ∈ f.row, cell.isWellFormed = true := by
  simp only [toRecord, Value.scalars, Value.scalarsOfEntries, Value.text, List.forall_mem_cons,
    List.cons_append, List.nil_append, Scalar.HasForm] at clean
  simp [row, clean]

theorem Report.toRecord_scalars_subset {r : Report} {strict : Bool} {f : Finding}
    (found : f ∈ r.findings) : f.toRecord.scalars ⊆ (r.toValue strict).scalars := by
  intro s there
  have listed : s ∈ (Value.list (r.findings.map Finding.toRecord)).scalars := by
    rw [Value.scalars, Value.scalarsOfItems_eq]
    exact List.mem_flatMap.mpr ⟨_, List.mem_map_of_mem found, there⟩
  rw [toValue, Value.scalars, Value.scalarsOfEntries_eq]
  refine List.mem_flatMap.mpr ⟨(.text "findings", .list (r.findings.map Finding.toRecord)), ?_, ?_⟩
  · simp [toEntries]
  · exact List.mem_cons_of_mem _ listed

namespace Answer

/-- An answer whose texts are plain and well formed, and whose numbers have texts. -/
def IsPlain (strict : Bool) : Answer → Prop
  | .report r => (∀ s ∈ (r.toValue strict).scalars, s.HasForm)
      ∧ ∀ f ∈ r.findings, ∀ cell ∈ f.row, Markup.IsPlain cell
  | .routes ops => ∀ op ∈ ops, ∀ cell ∈ op.row, cell.isWellFormed = true ∧ Markup.IsPlain cell

theorem IsPlain.hasForm {strict : Bool} {a : Answer} (isPlain : a.IsPlain strict)
    (p : Presentation) : a.HasForm p strict := by
  cases a with
  | routes ops =>
    have headers : ∀ cell ∈ Operation.headers, cell.isWellFormed = true ∧ Markup.IsPlain cell :=
      fun cell there => Markup.isPlain_headers cell (List.mem_append_left _ there)
    have cells : ∀ row ∈ Operation.headers :: ops.map Operation.row, ∀ cell ∈ row,
        cell.isWellFormed = true ∧ Markup.IsPlain cell :=
      List.forall_mem_cons.mpr ⟨headers, List.forall_mem_map.mpr isPlain⟩
    have title : Markup.IsPlain (Operation.table ops).title :=
      Markup.isPlain_counted _ (by decide) (by decide)
    exact .inr (Table.hasForm_of_plain title cells p)
  | report r =>
    obtain ⟨record, plain⟩ := isPlain
    have headers : ∀ cell ∈ Finding.headers, cell.isWellFormed = true ∧ Markup.IsPlain cell :=
      fun cell there => Markup.isPlain_headers cell (List.mem_append_right _ there)
    have cells : ∀ row ∈ Finding.headers :: r.findings.map Finding.row, ∀ cell ∈ row,
        cell.isWellFormed = true ∧ Markup.IsPlain cell := by
      refine List.forall_mem_cons.mpr ⟨headers, List.forall_mem_map.mpr fun f found cell inside => ?_⟩
      refine ⟨Finding.row_isWellFormed (fun s there => ?_) cell inside, plain f found cell inside⟩
      exact record s (Report.toRecord_scalars_subset found there)
    rw [HasForm]
    split
    · exact record
    · have title : Markup.IsPlain (Finding.table r.findings).title :=
        Markup.isPlain_counted _ (by decide) (by decide)
      exact .inr (.inr (Table.hasForm_of_plain title cells p))

end Answer
end ExposureLint
