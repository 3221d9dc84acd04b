import Mathlib
import ExposureLint.Proofs.Escaping
import ExposureLint.Proofs.Expansion
import ExposureLint.Proofs.RemarkLines
import ExposureLint.Proofs.ShortNames

/-!
Remarks with colours and without. A remark says the same in both ways, blanks at the ends of lines
aside, just when nothing in it is acted on where there are colours: no tab, no control character, no
short name of a picture, and, where it is escaped, no backslash in front of a bracket that opens no
tag and no single one at the end.
-/
namespace ExposureLint

namespace Text
variable {p : CodePoint → Bool} {t : Text}

def trimmed : Text → Text
  | [] => []
  | c :: rest =>
    let later := trimmed rest
    if c == ' ' && later.head?.all isFeed then later else c :: later
where
  isFeed (c : CodePoint) : Bool := c == '\n'

theorem filter_trimmed (blind : p (CodePoint.ofChar ' ') = false) (t : Text) :
    t.trimmed.filter p = t.filter p := by
  induction t with
  | nil => rfl
  | cons c rest ih =>
    simp only [trimmed]
    split
    · rename_i dropped
      obtain rfl : c = CodePoint.ofChar ' ' := beq_iff_eq.mp (Bool.and_eq_true_iff.mp dropped).1
      rw [ih, List.filter_cons_of_neg (by simp [blind])]
    · rw [List.filter_cons, List.filter_cons (x := c), ih]

theorem trimmed_suffix (s t : Text) : t.trimmed <:+ (s ++ t).trimmed := by
  induction s with
  | nil => exact List.suffix_refl _
  | cons c rest ih =>
    rw [List.cons_append, trimmed]
    split
    · exact ih
    · exact ih.trans (List.suffix_cons c _)

theorem trimmed_backslash_end (s : Text) (c : CodePoint) :
    [c, CodePoint.ofChar '\\', CodePoint.ofChar '\n']
      <:+ (s ++ [c, CodePoint.ofChar '\\', CodePoint.ofChar '\n']).trimmed := by
  have tail : trimmed [CodePoint.ofChar '\\', CodePoint.ofChar '\n']
      = [CodePoint.ofChar '\\', CodePoint.ofChar '\n'] := by decide
  have kept : trimmed [c, CodePoint.ofChar '\\', CodePoint.ofChar '\n']
      = [c, CodePoint.ofChar '\\', CodePoint.ofChar '\n'] := by
    rw [trimmed, tail]
    have noFeed : trimmed.isFeed (CodePoint.ofChar '\\') = false := rfl
    exact if_neg (by simp [noFeed])
  have whole := trimmed_suffix s [c, CodePoint.ofChar '\\', CodePoint.ofChar '\n']
  rw [kept] at whole
  exact whole

theorem forall_mem_ofNatHex {P : CodePoint → Prop}
    (digits : ∀ d < 16, P (CodePoint.ofChar (Nat.digitChar d))) (width n : Nat) :
    ∀ c ∈ ofNatHex width n, P c := by
  have inner (n : Nat) : ∀ c ∈ Nat.toDigits 16 n, P (CodePoint.ofChar c) := by
    induction n using Nat.strong_induction_on with
    | _ n ih =>
      obtain small | large := Nat.lt_or_ge n 16
      · rw [Nat.toDigits_of_lt_base small]
        exact List.forall_mem_singleton.mpr (digits n small)
      · rw [Nat.toDigits_of_base_le (by decide) large, List.forall_mem_append]
        exact ⟨ih _ (by omega), List.forall_mem_singleton.mpr (digits _ (by omega))⟩
  unfold ofNatHex padZero
  refine List.forall_mem_append.mpr ⟨fun c there => ?_, List.forall_mem_map.mpr (inner n)⟩
  rw [List.eq_of_mem_replicate there]
  exact digits 0 (by decide)

end Text

theorem Utf8.escaped_append (s t : Text) : escaped (s ++ t) = escaped s ++ escaped t :=
  List.flatMap_append

theorem Utf8.exists_escaped_last {t : Text} (some : t ≠ []) (other : Markup.EndsOtherwise t) :
    ∃ s c, escaped t = s ++ [c] ∧ Markup.isBackslash c = false := by
  obtain ⟨start, last, rfl⟩ := (List.eq_nil_or_concat' t).resolve_left some
  have whole : escaped (start ++ [last])
      = escaped start
        ++ if last.isSurrogate then "\\u" ++ Text.ofNatHex 4 last.val else [last] := by
    rw [escaped_append, escaped, escaped, List.flatMap_singleton]
  rw [whole]
  cases surrogate : last.isSurrogate with
  | true =>
    have tail : CodePoint.ofChar 'u' :: Text.ofNatHex 4 last.val ≠ [] := List.cons_ne_nil _ _
    have digits : ∀ c ∈ Text.ofNatHex 4 last.val, Markup.isBackslash c = false :=
      Text.forall_mem_ofNatHex (by decide) 4 last.val
    refine ⟨escaped start ++ CodePoint.ofChar '\\'
      :: (CodePoint.ofChar 'u' :: Text.ofNatHex 4 last.val).dropLast, _, ?_,
      List.forall_mem_cons.mpr ⟨by decide, digits⟩ _ (List.getLast_mem tail)⟩
    rw [List.append_assoc, List.cons_append, List.dropLast_append_getLast tail]
    rfl
  | false => exact ⟨escaped start, last, rfl, other last (by simp)⟩

/-- One backslash at the end of a text is not taken for two at the end of another, since the last
three code points differ. -/
theorem Utf8.single_ne_double {t : Text} (some : t ≠ []) (other : Markup.EndsOtherwise t)
    (w : Text) : (escaped (t ++ Markup.backslashes 1).ended).trimmed
      ≠ (escaped (w ++ Markup.backslashes 2).ended).trimmed := by
  obtain ⟨s, c, ends, apart⟩ := exists_escaped_last some other
  have single : escaped (t ++ Markup.backslashes 1).ended
      = s ++ [c, CodePoint.ofChar '\\', CodePoint.ofChar '\n'] := by
    rw [Text.ended, List.append_assoc, escaped_append, ends, List.append_assoc]
    rfl
  have double : escaped (w ++ Markup.backslashes 2).ended
      = escaped w ++ [CodePoint.ofChar '\\', CodePoint.ofChar '\\', CodePoint.ofChar '\n'] := by
    rw [Text.ended, List.append_assoc, escaped_append]
    rfl
  intro same
  have here := Text.trimmed_backslash_end s c
  have there := Text.trimmed_backslash_end (escaped w) (CodePoint.ofChar '\\')
  rw [← single, same] at here
  rw [← double] at there
  have equal := (List.suffix_of_suffix_length_le here there (Nat.le_refl 3)).eq_of_length rfl
  rw [(List.cons.inj equal).1] at apart
  cases apart

/-- Code points `p` on the stream stand for those of `q` in a text, one for one, however its
surrogates are written and blanks at the ends of lines are left out. -/
structure Counts (p q : CodePoint → Bool) : Prop where
  blind : p (CodePoint.ofChar ' ') = false
  same : ∀ c : CodePoint, c.isSurrogate = false → p c = q c
  lone : ∀ c : CodePoint, c.isSurrogate = true →
    (Text.ofString "\\u" ++ Text.ofNatHex 4 c.val).countP p = if q c then 1 else 0

namespace Counts
variable {p q : CodePoint → Bool} {s t : Text}

theorem escaped (counts : Counts p q) (t : Text) : (Utf8.escaped t).countP p = t.countP q := by
  induction t with
  | nil => rfl
  | cons c rest ih =>
    rw [Utf8.escaped, List.flatMap_cons, List.countP_append, ← Utf8.escaped, ih, List.countP_cons,
      Nat.add_comm]
    congr 1
    cases surrogate : c.isSurrogate with
    | true => exact counts.lone c surrogate
    | false =>
      rw [← counts.same c surrogate]
      simp [List.countP_singleton]

theorem of_trimmed (counts : Counts p q)
    (same : (Utf8.escaped s).trimmed = (Utf8.escaped t).trimmed) : s.countP q = t.countP q := by
  have kept (t : Text) : (Utf8.escaped t).trimmed.countP p = t.countP q := by
    rw [List.countP_eq_length_filter, Text.filter_trimmed counts.blind,
      ← List.countP_eq_length_filter, counts.escaped]
  rw [← kept s, ← kept t, same]

/-- Characters that are no part of an escape sequence count for themselves. -/
theorem of_apart (blind : p (CodePoint.ofChar ' ') = false)
    (real : ∀ c : CodePoint, c.isSurrogate = true → p c = false)
    (start : p (CodePoint.ofChar '\\') = false ∧ p (CodePoint.ofChar 'u') = false)
    (digits : ∀ d < 16, p (CodePoint.ofChar (Nat.digitChar d)) = false) : Counts p p where
  blind := blind
  same _ _ := rfl
  lone c surrogate := by
    have none : ∀ d ∈ Text.ofNatHex 4 c.val, p d = false := Text.forall_mem_ofNatHex digits 4 c.val
    rw [real c surrogate, List.countP_append]
    have hex : (Text.ofNatHex 4 c.val).countP p = 0 :=
      List.countP_eq_zero.mpr fun d there => by simp [none d there]
    rw [hex]
    simp [Text.ofString, start]

theorem of_char (x : Char) (blind : (CodePoint.ofChar ' ' == CodePoint.ofChar x) = false)
    (start : (CodePoint.ofChar '\\' == CodePoint.ofChar x) = false
      ∧ (CodePoint.ofChar 'u' == CodePoint.ofChar x) = false)
    (digits : ∀ d < 16, (CodePoint.ofChar (Nat.digitChar d) == CodePoint.ofChar x) = false) :
    Counts (· == CodePoint.ofChar x) (· == CodePoint.ofChar x) := by
  refine of_apart blind (fun c surrogate => beq_eq_false_iff_ne.mpr ?_) start digits
  rintro rfl
  cases (CodePoint.isSurrogate_ofChar x).symm.trans surrogate

theorem tabs : Counts (· == CodePoint.ofChar '\t') (· == CodePoint.ofChar '\t') :=
  of_char '\t' (by decide) (by decide) (by decide)

theorem feeds : Counts (· == CodePoint.ofChar '\n') (· == CodePoint.ofChar '\n') :=
  of_char '\n' (by decide) (by decide) (by decide)

theorem colons : Counts Emoji.isColon Emoji.isColon :=
  of_char ':' (by decide) (by decide) (by decide)

theorem controls : Counts CodePoint.isControl CodePoint.isControl := by
  refine of_apart (by decide) (fun c surrogate => ?_) (by decide) (by decide)
  simp only [CodePoint.isSurrogate, Bool.and_eq_true, decide_eq_true_eq] at surrogate
  simp only [CodePoint.isControl, Bool.or_eq_false_iff, beq_eq_false_iff_ne]
  omega

theorem backslashes : Counts Markup.isBackslash fun c => Markup.isBackslash c || c.isSurrogate where
  blind := by decide
  same c real := by simp [real]
  lone c surrogate := by
    have none : ∀ d ∈ Text.ofNatHex 4 c.val, Markup.isBackslash d = false :=
      Text.forall_mem_ofNatHex (by decide) 4 c.val
    have hex : (Text.ofNatHex 4 c.val).countP Markup.isBackslash = 0 :=
      List.countP_eq_zero.mpr fun d there => by simp [none d there]
    rw [List.countP_append, hex]
    simp [surrogate]
    decide

end Counts

namespace Presentation

def withColors (p : Presentation) (on : Bool) : Presentation :=
  { p with noColor := !on, screen := { p.screen with colored := on } }

/-- What a remark puts beside the data. -/
def saying (p : Presentation) (kind : Remark) (message : Text) : Text :=
  (p.streamsOf (.remark kind message)).remarks

theorem saying_eq (p : Presentation) (kind : Remark) (message : Text) :
    p.saying kind message = Utf8.escaped (kind.text p message) := by
  rw [saying, streamsOf_remark]
  rfl

/-- These are the two presentations that are made where only colours are asked for or not. -/
theorem saying_of_make {s : Surroundings} {format : OutputFormat} {quiet verbose : Bool}
    {p : Presentation} (made : make s format false quiet verbose = .ok p)
    (wanted : s.noColor = false) :
    p.withColors true = p ∧ ∃ q, make s format true quiet verbose = .ok q
      ∧ ∀ kind message, q.saying kind message = (p.withColors false).saying kind message := by
  rw [make] at made ⊢
  cases columns : s.columns with
  | error fault =>
    rw [columns] at made
    cases made
  | ok width =>
    rw [columns, wanted] at made
    cases made
    refine ⟨rfl, _, rfl, fun kind message => ?_⟩
    rw [saying_eq, saying_eq]
    cases kind <;> rfl

end Presentation

namespace Remark
variable {p : Presentation} {kind : Remark} {message : Text}

def piecesOf (kind : Remark) (message : Text) : List Text :=
  if kind.isMarkedUp then Markup.pieces message else [message]

/-- A message in which nothing is acted on where there are colours. -/
structure IsVerbatim (kind : Remark) (message : Text) : Prop where
  noTab : ∀ c ∈ message, (c == CodePoint.ofChar '\t') = false
  noControl : ∀ c ∈ message, c.isControl = false
  noPicture : ∀ piece ∈ kind.piecesOf message, ∀ name ∈ Emoji.names piece,
    Emoji.picture? name = none
  bare : kind.isMarkedUp = true → ∀ piece ∈ Markup.pieces message, ¬ Markup.hidden <:+: piece
  ended : kind.isMarkedUp = true → Markup.trailing message ≠ 1

theorem isShown_withColors (on : Bool) : kind.isShown (p.withColors on) = kind.isShown p := by
  cases kind <;> rfl

theorem text_withoutColors : kind.text (p.withColors false) message
    = if kind.isShown p then (kind.heading ++ message).ended else [] := by
  rw [text, isShown_withColors]
  cases kind.isShown p <;> rfl

theorem text_withColors : kind.text (p.withColors true) message
    = if kind.isShown p && p.screen.columns != 0 then (expanded (kind.colored message)).ended
      else [] := by
  rw [text, isShown_withColors]
  cases kind.isShown p with
  | false => rfl
  | true =>
    by_cases narrow : p.screen.columns = 0
    · simp [Presentation.withColors, narrow]
    · simp [Presentation.withColors, narrow, Text.ended]

theorem heading_plain (kind : Remark) : ∀ c ∈ kind.heading,
    (c == CodePoint.ofChar '\t') = false ∧ c.isControl = false := by
  cases kind <;> decide

theorem names_heading (plain : kind.isMarkedUp = false) (message : Text) :
    Emoji.names (kind.heading ++ message) = Emoji.names message := by
  refine Emoji.names_append ?_ message
  cases kind <;> first | decide | cases plain

theorem withoutControls_eq {t : Text} (plain : ∀ c ∈ t, c.isControl = false) :
    Text.withoutControls t = t :=
  List.filter_eq_self.mpr fun c there => by simp [plain c there]

theorem mem_of_mem_piece {t piece : Text} {c : CodePoint} (among : piece ∈ Markup.pieces t)
    (there : c ∈ piece) : c ∈ t := by
  rw [← Markup.flatten_pieces t]
  exact List.mem_flatten_of_mem among there

theorem doubled_eq (several : Markup.trailing message ≠ 1) : Markup.doubled message = message := by
  rw [Markup.doubled, if_neg several]
  exact List.append_nil message

theorem forall_mem_doubled {P : CodePoint → Prop} (all : ∀ c ∈ message, P c)
    (backslash : P (CodePoint.ofChar '\\')) : ∀ c ∈ Markup.doubled message, P c :=
  List.forall_mem_append.mpr ⟨all, fun _ there => Markup.mem_backslashes there ▸ backslash⟩

/-- Behind a heading that is marked up the end is that of the message, or a blank. -/
theorem heading_endsOtherwise (markedUp : kind.isMarkedUp = true) {z : Text}
    (other : Markup.EndsOtherwise z) :
    kind.heading ++ z ≠ [] ∧ Markup.EndsOtherwise (kind.heading ++ z) := by
  have some : kind.heading ≠ [] := by
    cases kind <;> first | decide | cases markedUp
  have blank : Markup.EndsOtherwise kind.heading := by
    cases kind <;> unfold Markup.EndsOtherwise <;> decide
  refine ⟨List.append_ne_nil_of_left_ne_nil some z, fun c last => ?_⟩
  rw [List.getLast?_append, Option.mem_def, Option.or_eq_some_iff] at last
  obtain behind | ⟨-, front⟩ := last
  · exact other c behind
  · exact blank c front

theorem IsVerbatim.colored_eq (verbatim : IsVerbatim kind message) :
    kind.colored message = kind.heading ++ message := by
  have noPicture := verbatim.noPicture
  rw [colored]
  unfold piecesOf at noPicture
  split at noPicture
  · rename_i markedUp
    have shown (piece : Text) (among : piece ∈ Markup.pieces message) :
        Markup.shown piece = piece := by
      rw [Markup.shown, Markup.unescapeBrackets_eq_self (verbatim.bare markedUp piece among),
        Emoji.replace_eq_self (noPicture piece among),
        withoutControls_eq fun c there => verbatim.noControl c (mem_of_mem_piece among there)]
    rw [if_pos markedUp, Markup.shownParts_escape, doubled_eq (verbatim.ended markedUp),
      List.flatMap_congr shown, List.flatMap_id', Markup.flatten_pieces]
  · rename_i plain
    rw [Bool.not_eq_true] at plain
    have none : ∀ name ∈ Emoji.names (kind.heading ++ message),
        Emoji.picture? name = Option.none := by
      rw [names_heading plain]
      exact noPicture message List.mem_cons_self
    rw [plain, if_neg Bool.false_ne_true, Markup.plain, Emoji.replace_eq_self none]
    exact withoutControls_eq (List.forall_mem_append.mpr
      ⟨fun c there => (heading_plain kind c there).2, verbatim.noControl⟩)

theorem IsVerbatim.text_eq (verbatim : IsVerbatim kind message) (wide : p.screen.columns ≠ 0) :
    kind.text (p.withColors true) message = kind.text (p.withColors false) message := by
  have noTab : ∀ c ∈ kind.heading ++ message, (c == CodePoint.ofChar '\t') = false :=
    List.forall_mem_append.mpr ⟨fun c there => (heading_plain kind c there).1, verbatim.noTab⟩
  rw [text_withColors, text_withoutColors, verbatim.colored_eq, expanded_of_noTab noTab]
  simp [wide]

section
variable {a b : CodePoint → Bool}

/-- What is shown with colours is as often in the text without them, where the two are the same on
the stream. -/
theorem countP_colored (counts : Counts a b) (blindFeed : b (CodePoint.ofChar '\n') = false)
    (blindTab : b (CodePoint.ofChar '\t') = false) (blindBlank : b (CodePoint.ofChar ' ') = false)
    (same : (Utf8.escaped (expanded (kind.colored message)).ended).trimmed
      = (Utf8.escaped (kind.heading ++ message).ended).trimmed) :
    (kind.colored message).countP b = (kind.heading ++ message).countP b := by
  have ended (t : Text) : t.ended.countP b = t.countP b := by
    simp [Text.ended, blindFeed]
  have total := counts.of_trimmed same
  rw [ended, ended] at total
  rw [← total, List.countP_eq_length_filter, List.countP_eq_length_filter,
    filter_expanded blindFeed blindTab blindBlank]

/-- Where nothing is more often in a piece than before, and altogether all is as often as before, it
is so in each piece. -/
theorem countP_eq_of_flatMap (f : Text → Text) (pieces : List Text)
    (less : ∀ piece, (f piece).countP b ≤ piece.countP b)
    (same : (pieces.flatMap f).countP b = pieces.flatten.countP b) :
    ∀ piece ∈ pieces, (f piece).countP b = piece.countP b := by
  have all (pieces : List Text) : (pieces.flatMap f).countP b ≤ pieces.flatten.countP b := by
    induction pieces with
    | nil => exact Nat.le_refl _
    | cons piece rest ih =>
      rw [List.flatMap_cons, List.flatten_cons, List.countP_append, List.countP_append]
      exact Nat.add_le_add (less piece) ih
  induction pieces with
  | nil => exact List.forall_mem_nil _
  | cons piece rest ih =>
    rw [List.flatMap_cons, List.flatten_cons, List.countP_append, List.countP_append] at same
    have first := less piece
    have others := all rest
    exact List.forall_mem_cons.mpr ⟨by omega, ih (by omega)⟩

end

theorem noControl_shown (piece : Text) : ∀ c ∈ Markup.shown piece, c.isControl = false := by
  intro c there
  simpa using (List.mem_filter.mp there).2

theorem noControl_colored : ∀ c ∈ kind.colored message, c.isControl = false := by
  rw [colored]
  split
  · refine List.forall_mem_append.mpr ⟨fun c there => (heading_plain kind c there).2, ?_⟩
    rw [Markup.shownParts_escape]
    intro c there
    obtain ⟨piece, -, inside⟩ := List.mem_flatMap.mp there
    exact noControl_shown piece c inside
  · intro c there
    simpa using (List.mem_filter.mp there).2

theorem colons_withoutControls (t : Text) :
    (Text.withoutControls t).countP Emoji.isColon = t.countP Emoji.isColon := by
  rw [Text.withoutControls, List.countP_filter]
  refine List.countP_congr fun c _ => ?_
  rw [Bool.and_eq_true_iff, and_iff_left_of_imp]
  intro colon
  obtain rfl : c = CodePoint.ofChar ':' := beq_iff_eq.mp colon
  rfl

theorem colons_shown (piece : Text) : (Markup.shown piece).countP Emoji.isColon
    = (Emoji.replace (Markup.unescapeBrackets piece)).countP Emoji.isColon :=
  colons_withoutControls _

theorem colons_unescapeBrackets (piece : Text) :
    (Markup.unescapeBrackets piece).countP Emoji.isColon = piece.countP Emoji.isColon := by
  rw [List.countP_eq_length_filter, List.countP_eq_length_filter,
    Markup.filter_unescapeBrackets (by decide)]

theorem colons_doubled (t : Text) :
    (Markup.doubled t).countP Emoji.isColon = t.countP Emoji.isColon := by
  have none (n : Nat) : (Markup.backslashes n).countP Emoji.isColon = 0 :=
    List.countP_eq_zero.mpr fun c there => by
      rw [Markup.mem_backslashes there]
      decide
  rw [Markup.doubled, List.countP_append, none, Nat.add_zero]

/-- The two ways of showing a message are the same on the stream, blanks at the ends of lines
aside. -/
def LooksSame (kind : Remark) (message : Text) : Prop :=
  (Utf8.escaped (expanded (kind.colored message)).ended).trimmed
    = (Utf8.escaped (kind.heading ++ message).ended).trimmed

namespace LooksSame
variable (same : LooksSame kind message)
include same

theorem noTab : ∀ c ∈ message, (c == CodePoint.ofChar '\t') = false := by
  have total := Counts.tabs.of_trimmed same
  have none : (expanded (kind.colored message)).ended.countP (· == CodePoint.ofChar '\t') = 0 := by
    refine List.countP_eq_zero.mpr fun c there => ?_
    obtain inside | feed := List.mem_append.mp there
    · simp [noTab_expanded _ c inside]
    · rw [List.mem_singleton.mp feed]
      decide
  rw [none] at total
  intro c there
  have inside : c ∈ (kind.heading ++ message).ended := by simp [Text.ended, there]
  exact Bool.eq_false_iff.mpr (List.countP_eq_zero.mp total.symm c inside)

theorem noControl : ∀ c ∈ message, c.isControl = false := by
  have total := countP_colored Counts.controls (by decide) (by decide) (by decide) same
  rw [List.countP_eq_zero.mpr fun c there => by simp [noControl_colored c there]] at total
  intro c there
  exact Bool.eq_false_iff.mpr
    (List.countP_eq_zero.mp total.symm c (List.mem_append_right _ there))

theorem noPicture_of_plain (plain : kind.isMarkedUp = false) :
    ∀ name ∈ Emoji.names message, Emoji.picture? name = none := by
  have total := countP_colored Counts.colons (by decide) (by decide) (by decide) same
  rw [colored, plain, if_neg Bool.false_ne_true, Markup.plain, colons_withoutControls,
    Emoji.colons_replace_eq_iff, names_heading plain] at total
  exact total

section
variable (markedUp : kind.isMarkedUp = true)
include markedUp

theorem noPicture_unescaped : ∀ piece ∈ Markup.pieces (Markup.doubled message),
    ∀ name ∈ Emoji.names (Markup.unescapeBrackets piece), Emoji.picture? name = none := by
  have total := countP_colored Counts.colons (by decide) (by decide) (by decide) same
  rw [colored, if_pos markedUp, List.countP_append, List.countP_append, Nat.add_left_cancel_iff,
    Markup.shownParts_escape] at total
  have each := countP_eq_of_flatMap Markup.shown (Markup.pieces (Markup.doubled message))
    (fun piece => (colons_shown piece).trans_le
      ((Emoji.colons_replace_le _).trans_eq (colons_unescapeBrackets piece)))
    (by rw [Markup.flatten_pieces, colons_doubled, total])
  intro piece among
  have here := each piece among
  rw [colons_shown, ← colons_unescapeBrackets piece] at here
  exact Emoji.colons_replace_eq_iff.mp here

/-- So what is shown of the message are its pieces, but for lost backslashes. -/
theorem shownParts_eq : Markup.shownParts (Markup.escape message)
    = (Markup.pieces (Markup.doubled message)).flatMap Markup.unescapeBrackets := by
  rw [Markup.shownParts_escape]
  refine List.flatMap_congr fun piece among => ?_
  rw [Markup.shown, Emoji.replace_eq_self (same.noPicture_unescaped markedUp piece among)]
  refine withoutControls_eq fun c there => ?_
  exact forall_mem_doubled same.noControl (by decide) c
    (mem_of_mem_piece among ((Markup.unescapeBrackets_sublist piece).mem there))

theorem noTab_colored : ∀ c ∈ kind.colored message, (c == CodePoint.ofChar '\t') = false := by
  rw [colored, if_pos markedUp, same.shownParts_eq markedUp]
  refine List.forall_mem_append.mpr ⟨fun c there => (heading_plain kind c there).1, ?_⟩
  intro c there
  obtain ⟨piece, among, inside⟩ := List.mem_flatMap.mp there
  exact forall_mem_doubled same.noTab (by decide) c
    (mem_of_mem_piece among ((Markup.unescapeBrackets_sublist piece).mem inside))

/-- A single backslash at the end would come out twice. -/
theorem ended : Markup.trailing message ≠ 1 := by
  intro single
  obtain ⟨z, n, rfl, other⟩ := Markup.exists_trailing message
  obtain rfl : n = 1 := (Markup.trailing_append other n).symm.trans single
  have double : Markup.doubled (z ++ Markup.backslashes 1) = z ++ Markup.backslashes 2 := by
    rw [Markup.doubled, if_pos single, List.append_assoc]
    rfl
  obtain ⟨w, read⟩ := Markup.flatMap_unescapeBrackets
    ((Markup.flatten_pieces (Markup.doubled (z ++ Markup.backslashes 1))).trans double)
  have twice : kind.colored (z ++ Markup.backslashes 1)
      = (kind.heading ++ w) ++ Markup.backslashes 2 := by
    rw [colored, if_pos markedUp, same.shownParts_eq markedUp, read, List.append_assoc]
  obtain ⟨some, otherwise⟩ := heading_endsOtherwise markedUp other
  have shape := same
  rw [LooksSame, expanded_of_noTab (same.noTab_colored markedUp), twice,
    ← List.append_assoc kind.heading] at shape
  exact Utf8.single_ne_double some otherwise _ shape.symm

theorem bare : ∀ piece ∈ Markup.pieces message, ¬ Markup.hidden <:+: piece := by
  have single : Markup.doubled message = message := doubled_eq (same.ended markedUp)
  have total := countP_colored Counts.backslashes (by decide) (by decide) (by decide) same
  rw [colored, if_pos markedUp, List.countP_append, List.countP_append, Nat.add_left_cancel_iff,
    same.shownParts_eq markedUp, single] at total
  have each := countP_eq_of_flatMap Markup.unescapeBrackets (Markup.pieces message)
    (fun piece => (Markup.unescapeBrackets_sublist piece).countP_le)
    (by rw [Markup.flatten_pieces, total])
  exact fun piece among => Markup.bare_of_countP_unescapeBrackets (by decide) (each piece among)

end

theorem isVerbatim : IsVerbatim kind message where
  noTab := same.noTab
  noControl := same.noControl
  noPicture := by
    unfold piecesOf
    split
    · rename_i markedUp
      intro piece among
      have told := same.noPicture_unescaped markedUp piece
      rw [doubled_eq (same.ended markedUp),
        Markup.unescapeBrackets_eq_self (same.bare markedUp piece among)] at told
      exact told among
    · rename_i plain
      exact List.forall_mem_singleton.mpr (same.noPicture_of_plain (Bool.not_eq_true _ ▸ plain))
  bare := same.bare
  ended := same.ended

end LooksSame

/-- What is told is told word for word: it is not shown at all, or it is verbatim and the screen has
room. -/
def IsKept (p : Presentation) (kind : Remark) (message : Text) : Prop :=
  kind.isShown p = true → p.screen.columns ≠ 0 ∧ kind.IsVerbatim message

theorem IsKept.text_eq (kept : IsKept p kind message) :
    kind.text (p.withColors true) message = kind.text (p.withColors false) message := by
  cases shown : kind.isShown p with
  | false =>
    rw [text_withColors, text_withoutColors, shown]
    rfl
  | true =>
    obtain ⟨wide, verbatim⟩ := kept shown
    exact verbatim.text_eq wide

theorem isKept_of_trimmed (same : ((p.withColors true).saying kind message).trimmed
    = ((p.withColors false).saying kind message).trimmed) : IsKept p kind message := by
  intro shown
  rw [Presentation.saying_eq, Presentation.saying_eq, text_withColors, text_withoutColors, shown,
    if_pos rfl, Bool.true_and] at same
  have wide : p.screen.columns ≠ 0 := by
    intro narrow
    -- on a screen without columns there is not even a line feed
    have feeds := Counts.feeds.of_trimmed same
    simp [narrow, Text.ended] at feeds
  rw [if_pos (by simpa using wide)] at same
  exact ⟨wide, LooksSame.isVerbatim same⟩

/-- Without colours a remark is its heading with the message behind it. With colours it is the same,
with or without the blanks at the ends of its lines, just when it is kept. A presentation that is
made for colours has a counterpart that is made for none, and says what it says without them. -/
theorem colors_agree_iff (p : Presentation) (kind : Remark) (message : Text) :
    (p.withColors false).saying kind message
        = (if kind.isShown p then Utf8.escaped (kind.heading ++ message).ended else [])
      ∧ (((p.withColors true).saying kind message).trimmed
            = ((p.withColors false).saying kind message).trimmed ↔ IsKept p kind message)
      ∧ ((p.withColors true).saying kind message = (p.withColors false).saying kind message
          ↔ IsKept p kind message)
      ∧ ∀ (s : Surroundings) (format : OutputFormat) (quiet verbose : Bool), s.noColor = false →
        Presentation.make s format false quiet verbose = .ok p →
        p.withColors true = p ∧ ∃ q, Presentation.make s format true quiet verbose = .ok q
          ∧ q.saying kind message = (p.withColors false).saying kind message := by
  have equal (kept : IsKept p kind message) :
      (p.withColors true).saying kind message = (p.withColors false).saying kind message := by
    rw [Presentation.saying_eq, Presentation.saying_eq, kept.text_eq]
  refine ⟨?_, ⟨isKept_of_trimmed, fun kept => ?_⟩, ⟨fun same => ?_, equal⟩,
    fun s format quiet verbose wanted made => ?_⟩
  · rw [Presentation.saying_eq, text_withoutColors]
    cases kind.isShown p <;> rfl
  · rw [equal kept]
  · exact isKept_of_trimmed (by rw [same])
  · obtain ⟨colored, q, made', told⟩ := Presentation.saying_of_make made wanted
    exact ⟨colored, q, made', told kind message⟩

/-- An error about the name of a picture between colons is told with the picture. -/
theorem short_name_not_kept :
    let p : Presentation := ⟨.plain, false, false, false, ⟨80, some .sixteen, true⟩⟩
    ((p.withColors true).saying .error ":id:").trimmed
      ≠ ((p.withColors false).saying .error ":id:").trimmed := by
  intro p same
  obtain ⟨-, verbatim⟩ := isKept_of_trimmed same rfl
  have none := verbatim.noPicture ":id:" (by decide +kernel) "id" (by decide +kernel)
  -- the number is compared first, which is quicker than to compare the names
  have listed : ∃ entry ∈ Emoji.table, entry.2 = [0x1F194] ∧ entry.1 = "id" := by decide +kernel
  obtain ⟨entry, among, -, named⟩ := listed
  exact absurd none (Emoji.picture?_ne_none ⟨entry, among, named⟩ (by decide))

end Remark
end ExposureLint
