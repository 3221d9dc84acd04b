import Mathlib
import ExposureLint.Proofs.Drawing
import ExposureLint.Proofs.Expansion

/-!
Remarks as lines. A remark of ordinary characters stands on the stream as it is, on one line, in all
presentations that show it; and so the lines that are shown can be read off the stream again.
-/
namespace ExposureLint

namespace Text

theorem lines_flatMap {ls : List Text}
    (free : ∀ l ∈ ls, ∀ c ∈ l, (c == CodePoint.ofChar '\n') = false) :
    lines (ls.flatMap (· ++ [CodePoint.ofChar '\n'])) = ls ++ [[]] := by
  induction ls with
  | nil => rfl
  | cons l rest ih =>
    obtain ⟨here, there⟩ := List.forall_mem_cons.mp free
    rw [List.flatMap_cons, List.append_assoc, List.singleton_append, lines,
      pieces_append_cons here (by decide), ← lines, ih there]
    rfl

end Text

/-- A character that is shown as it is, wherever it stands. -/
def CodePoint.isOrdinary (c : CodePoint) : Bool :=
  !c.isSurrogate && !c.isControl && !(c == '\n') && !(c == '\t') && !Markup.isOpening c
    && !Markup.isBackslash c

theorem CodePoint.isOrdinary_iff {c : CodePoint} : c.isOrdinary = true ↔
    c.isSurrogate = false ∧ c.isControl = false ∧ (c == CodePoint.ofChar '\n') = false
      ∧ (c == CodePoint.ofChar '\t') = false ∧ Markup.isOpening c = false
      ∧ Markup.isBackslash c = false := by
  simp only [isOrdinary, Bool.and_eq_true, Bool.not_eq_true', and_assoc]

namespace Emoji
variable {s t : Text}

/-- Texts without short names have none together, unless a colon stands between them. -/
theorem isNameless_append (first : isNameless s = true) (ended : ∀ c ∈ s.getLast?, isColon c = false)
    (second : isNameless t = true) : isNameless (s ++ t) = true := by
  induction s with
  | nil => exact second
  | cons c rest ih =>
    simp only [isNameless, Bool.and_eq_true] at first
    cases rest with
    | nil =>
      have other : isColon c = false := ended c rfl
      simp [isNameless, other, second]
    | cons d more =>
      simp only [List.cons_append, isNameless, Bool.and_eq_true] at ih ⊢
      refine ⟨first.1, ih (by simpa [isNameless] using first.2) fun e last => ended e ?_⟩
      simpa using last

end Emoji

structure Text.IsOrdinary (t : Text) : Prop where
  characters : ∀ c ∈ t, c.isOrdinary = true
  nameless : Emoji.isNameless t = true

instance (t : Text) : Decidable t.IsOrdinary :=
  decidable_of_iff ((∀ c ∈ t, c.isOrdinary = true) ∧ Emoji.isNameless t = true)
    ⟨fun ⟨characters, nameless⟩ => ⟨characters, nameless⟩, fun h => ⟨h.characters, h.nameless⟩⟩

namespace Text.IsOrdinary
variable {s t : Text}

theorem isWellFormed (ordinary : t.IsOrdinary) : t.isWellFormed = true :=
  Text.isWellFormed_iff.mpr fun c there =>
    (CodePoint.isOrdinary_iff.mp (ordinary.characters c there)).1

theorem plain_eq (ordinary : t.IsOrdinary) : Markup.plain t = t := by
  rw [Markup.plain, Emoji.replace_of_isNameless ordinary.nameless, Text.withoutControls,
    List.filter_eq_self]
  intro c there
  have shown := (CodePoint.isOrdinary_iff.mp (ordinary.characters c there)).2.1
  simp [shown]

theorem closed (ordinary : t.IsOrdinary) : ∀ c ∈ t, Markup.isOpening c = false :=
  fun c there => (CodePoint.isOrdinary_iff.mp (ordinary.characters c there)).2.2.2.2.1

theorem escape_eq (ordinary : t.IsOrdinary) : Markup.escape t = t := by
  have whole : Markup.escapeFrom 0 t = t := by
    have closed := ordinary.closed
    clear ordinary
    induction t with
    | nil => rfl
    | cons c rest ih =>
      rw [Markup.escapeFrom, Markup.escapedTagAt?_eq_none closed]
      exact congrArg (c :: ·) (ih (List.forall_mem_cons.mp closed).2)
  have noBackslash : t.reverse.takeWhile Markup.isBackslash = [] := by
    cases reversed : t.reverse with
    | nil => rfl
    | cons c rest =>
      have there : c ∈ t := List.mem_reverse.mp (reversed ▸ List.mem_cons_self)
      have other := (CodePoint.isOrdinary_iff.mp (ordinary.characters c there)).2.2.2.2.2
      simp [other]
  simp [Markup.escape, whole, noBackslash]

theorem shownParts_eq (ordinary : t.IsOrdinary) : Markup.shownParts t = t := by
  have visible : Markup.shown t = t := by
    rw [Markup.shown, Markup.unescapeBrackets_eq ordinary.closed]
    exact ordinary.plain_eq
  rw [Markup.shownParts, Markup.parts_eq ordinary.closed, Markup.plainParts]
  split
  · rename_i empty
    rw [List.isEmpty_iff, List.reverse_eq_nil_iff] at empty
    rw [empty]
    rfl
  · simp [visible]

theorem noLineFeed (ordinary : t.IsOrdinary) : ∀ c ∈ t, (c == CodePoint.ofChar '\n') = false :=
  fun c there => (CodePoint.isOrdinary_iff.mp (ordinary.characters c there)).2.2.1

theorem noTab (ordinary : t.IsOrdinary) : ∀ c ∈ t, (c == CodePoint.ofChar '\t') = false :=
  fun c there => (CodePoint.isOrdinary_iff.mp (ordinary.characters c there)).2.2.2.1

end Text.IsOrdinary

theorem Utf8.escaped_eq {t : Text} (good : t.isWellFormed = true) : escaped t = t := by
  rw [Text.isWellFormed_iff] at good
  induction t with
  | nil => rfl
  | cons c rest ih =>
    obtain ⟨here, there⟩ := List.forall_mem_cons.mp good
    rw [escaped] at ih ⊢
    rw [List.flatMap_cons, ih there, here]
    rfl

def Text.ended (t : Text) : Text := t ++ [CodePoint.ofChar '\n']

theorem Text.isWellFormed_ended (t : Text) : t.ended.isWellFormed = t.isWellFormed := by
  simp [ended, CodePoint.isSurrogate_ofChar]

namespace Remark
variable {p : Presentation} {kind : Remark} {message : Text}

/-- A remark that is shown as it is, with and without what stands in front of it. -/
structure IsOrdinary (kind : Remark) (message : Text) : Prop where
  inner : message.IsOrdinary
  whole : (kind.heading ++ message).IsOrdinary

/-- Whether a presentation shows a remark. With colours, a screen without columns shows none. -/
def isTold (p : Presentation) (kind : Remark) : Bool :=
  kind.isShown p && (p.noColor || p.screen.columns != 0)

theorem IsOrdinary.colored_eq (ordinary : IsOrdinary kind message) :
    kind.colored message = kind.heading ++ message := by
  rw [colored]
  split
  · rw [ordinary.inner.escape_eq, ordinary.inner.shownParts_eq]
  · exact ordinary.whole.plain_eq

theorem IsOrdinary.text_eq (ordinary : IsOrdinary kind message) :
    kind.text p message
      = if kind.isTold p then (kind.heading ++ message).ended else [] := by
  unfold text isTold
  cases kind.isShown p with
  | false => rfl
  | true =>
    cases p.noColor with
    | true => rfl
    | false =>
      rw [ordinary.colored_eq, expanded_of_noTab ordinary.whole.noTab]
      by_cases narrow : p.screen.columns = 0
      · simp [narrow]
      · simp [narrow, Text.ended]

end Remark

/-- The line that a remark puts beside the data, if a presentation shows it. -/
def Emission.line? (p : Presentation) : Emission → Option Text
  | .remark kind message => if kind.isTold p then some (kind.heading ++ message) else none
  | _ => none

inductive Emission.IsOrdinary : Emission → Prop
  | remark {kind : Remark} {message : Text} (ordinary : kind.IsOrdinary message) :
    Emission.IsOrdinary (.remark kind message)

namespace Emission.IsOrdinary
variable {p : Presentation} {e : Emission} {es : List Emission}

theorem streamsOf_eq (ordinary : e.IsOrdinary) :
    p.streamsOf e = ⟨[], ((e.line? p).map Text.ended).getD []⟩ := by
  obtain ⟨ordinary⟩ := ordinary
  rw [Presentation.streamsOf_remark, Streams.ofRemarks, ordinary.text_eq, line?]
  split
  · rw [Utf8.escaped_eq ((Text.isWellFormed_ended _).trans ordinary.whole.isWellFormed)]
    rfl
  · rfl

theorem line?_noLineFeed (ordinary : e.IsOrdinary) {l : Text} (shown : e.line? p = some l) :
    ∀ c ∈ l, (c == CodePoint.ofChar '\n') = false := by
  obtain ⟨ordinary⟩ := ordinary
  rw [line?] at shown
  split at shown
  · cases shown
    exact ordinary.whole.noLineFeed
  · cases shown

theorem streams_all (ordinary : ∀ e ∈ es, e.IsOrdinary) :
    Streams.all (es.map p.streamsOf) = ⟨[], (es.filterMap (line? p)).flatMap Text.ended⟩ := by
  induction es with
  | nil => rfl
  | cons e rest ih =>
    obtain ⟨here, there⟩ := List.forall_mem_cons.mp ordinary
    have first := streamsOf_eq (p := p) here
    have others := ih there
    simp only [Streams.all, List.map_cons, List.foldr_cons] at others ⊢
    rw [first, others, List.filterMap_cons]
    cases e.line? p <;> rfl

theorem lines_eq (ordinary : ∀ e ∈ es, e.IsOrdinary) :
    Text.lines ((es.filterMap (line? p)).flatMap Text.ended) = es.filterMap (line? p) ++ [[]] := by
  refine Text.lines_flatMap fun l there => ?_
  obtain ⟨e, among, shown⟩ := List.mem_filterMap.mp there
  exact (ordinary e among).line?_noLineFeed shown

end Emission.IsOrdinary
end ExposureLint
