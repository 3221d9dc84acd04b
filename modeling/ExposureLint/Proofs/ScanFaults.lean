import Mathlib
import ExposureLint.Proofs.JsonNumber
import ExposureLint.Yaml.Token.Stream
import ExposureLint.Yaml.Scalar

/-!
What goes wrong while a YAML text is taken apart into tokens. Nearly every fault is a complaint with
a place. The others have no place: an escape that names no code point, and the number of a version
with too many digits.
-/
namespace ExposureLint.Yaml

/-- A fault without a place, with what it comes from: an escape, the number of a version, or a text
that a node's tag does not fit. -/
inductive IsStray : ScalarFault → Prop
  | escape {n : Nat} {fault : ScalarFault} (refused : codePoint n = .error (.scalar fault)) :
    IsStray fault
  | version {fault : Numeral.Fault} (long : Numeral.IsTooLong fault) : IsStray (.numeral fault)
  | bool {written : Text} {fault : ScalarFault} (refused : readBool written = .error fault) :
    IsStray fault
  | int {written : Text} {fault : ScalarFault} (refused : readInt written = .error fault) :
    IsStray fault
  | float {own : Nat} {written : Text} {fault : ScalarFault}
    (refused : readFloat own written = .error fault) : IsStray fault
  | timestamp {written : Text} {fault : ScalarFault}
    (refused : readTimestamp written = .error fault) : IsStray fault
  | timestampOfMapping : IsStray .timestampOfMapping

/-- A fault has a place, or it is one of the known ones without. -/
def IsKnown (f : Fault) : Prop := ∀ fault, f = .scalar fault → IsStray fault

theorem complaint_known (c : Complaint) : IsKnown (.complaint c) := by
  intro fault same
  cases same

theorem tooDeep_known : IsKnown .tooDeep := by
  intro fault same
  cases same

section
variable {α : Type} {Q : α → Prop}

theorem complain_yields (context : Context) (start : Mark) (problem : Problem) (c : Cursor) :
    Yields IsKnown Q (complain context start problem c) :=
  .error (complaint_known _)

theorem unexpected_yields (context : Context) (start : Mark) (what : Expected) (c : Cursor) :
    Yields IsKnown Q (unexpected context start what c) :=
  complain_yields _ _ _ _

end

theorem scanAnchor_yields (c : Cursor) : FailsOnly IsKnown (scanAnchor c) := by
  unfold scanAnchor
  simp only
  split
  · exact unexpected_yields _ _ _ _
  · split
    · exact unexpected_yields _ _ _ _
    · exact .ok trivial

section
variable (place : TagPlace) (start : Mark)

theorem scanUriByte_yields (c : Cursor) : FailsOnly IsKnown (scanUriByte place start c) := by
  unfold scanUriByte
  simp only
  split
  · exact complain_yields _ _ _ _
  · exact complain_yields _ _ _ _
  · exact .ok trivial

theorem scanUriBytes_yields (fuel : Nat) (c : Cursor) :
    FailsOnly IsKnown (scanUriBytes place start fuel c) := by
  induction fuel generalizing c with
  | zero => exact .ok trivial
  | succ fuel ih =>
    simp only [scanUriBytes]
    split
    · exact (scanUriByte_yields place start _).bind fun _ _ => (ih _).bind fun _ _ => .ok trivial
    · exact .ok trivial

theorem scanUriParts_yields (fuel : Nat) (c : Cursor) :
    FailsOnly IsKnown (scanUriParts place start fuel c) := by
  induction fuel generalizing c with
  | zero => exact .ok trivial
  | succ fuel ih =>
    simp only [scanUriParts]
    split
    · apply Yields.bind (scanUriBytes_yields place start _ _)
      intro bytes _
      split
      · exact complain_yields _ _ _ _
      · exact (ih _).bind fun _ _ => .ok trivial
    · split
      · exact (ih _).bind fun _ _ => .ok trivial
      · exact .ok trivial

theorem scanUri_yields (c : Cursor) : FailsOnly IsKnown (scanUri place start c) := by
  unfold scanUri
  split
  · exact scanUriParts_yields place start _ c
  · exact unexpected_yields _ _ _ _

theorem scanHandle_yields (c : Cursor) : FailsOnly IsKnown (scanHandle place start c) := by
  unfold scanHandle
  simp only
  split
  · exact unexpected_yields _ _ _ _
  · split
    · exact .ok trivial
    · split
      · exact unexpected_yields _ _ _ _
      · exact .ok trivial

end

theorem scanWrittenTag_yields (c : Cursor) : FailsOnly IsKnown (scanWrittenTag c) := by
  unfold scanWrittenTag
  simp only
  split
  · apply Yields.bind (scanUri_yields _ _ _)
    intro suffix _
    split
    · exact unexpected_yields _ _ _ _
    · exact .ok trivial
  · split
    · exact .ok trivial
    · split
      · exact (scanHandle_yields _ _ _).bind fun _ _ =>
          (scanUri_yields _ _ _).bind fun _ _ => .ok trivial
      · exact (scanUri_yields _ _ _).bind fun _ _ => .ok trivial

theorem scanTag_yields (c : Cursor) : FailsOnly IsKnown (scanTag c) := by
  apply Yields.bind (scanWrittenTag_yields c)
  intro written _
  simp only
  split
  · exact unexpected_yields _ _ _ _
  · exact .ok trivial

theorem scanVersionNumber_yields (start : Mark) (c : Cursor) :
    FailsOnly IsKnown (scanVersionNumber start c) := by
  unfold scanVersionNumber
  simp only
  split
  · exact unexpected_yields _ _ _ _
  · rename_i found
    have row : Text.IsDigits (c.span CodePoint.isAsciiDigit).1 :=
      ⟨by simpa using found, fun x hx => List.mem_takeWhile_imp hx⟩
    have read := Numeral.readInt_yields false row
    rw [show Numeral.minus false = [] from rfl, List.nil_append] at read
    split
    · exact .ok trivial
    · rename_i fault failed
      refine .error fun fault' same => ?_
      cases same
      exact .version (read.of_error failed)

theorem scanVersion_yields (start : Mark) (c : Cursor) :
    FailsOnly IsKnown (scanVersion start c) := by
  apply Yields.bind (scanVersionNumber_yields start _)
  intro major _
  simp only
  split
  · exact unexpected_yields _ _ _ _
  · apply Yields.bind (scanVersionNumber_yields start _)
    intro minor _
    split
    · exact unexpected_yields _ _ _ _
    · exact .ok trivial

theorem scanHandleDirective_yields (start : Mark) (c : Cursor) :
    FailsOnly IsKnown (scanHandleDirective start c) := by
  apply Yields.bind (scanHandle_yields _ _ _)
  intro name _
  simp only
  split
  · exact unexpected_yields _ _ _ _
  · apply Yields.bind (scanUri_yields _ _ _)
    intro meaning _
    split
    · exact unexpected_yields _ _ _ _
    · exact .ok trivial

theorem skipLineEnd_yields (context : Context) (start : Mark) (c : Cursor) :
    FailsOnly IsKnown (skipLineEnd context start c) := by
  have settled (c : Cursor) : FailsOnly IsKnown
      (if !isBreakOrEnd c.peek then unexpected context start .commentOrBreak c
        else .ok c.lineBreak.2) := by
    split
    · exact unexpected_yields _ _ _ _
    · exact .ok trivial
  exact settled _

theorem scanDirective_yields (c : Cursor) : FailsOnly IsKnown (scanDirective c) := by
  have value (name : Text) (start : Mark) (c : Cursor) :
      FailsOnly IsKnown (scanDirectiveValue name start c) := by
    unfold scanDirectiveValue
    split
    · exact scanVersion_yields start c
    · split
      · exact scanHandleDirective_yields start c
      · exact .ok trivial
  unfold scanDirective
  simp only
  split
  · exact unexpected_yields _ _ _ _
  · apply Yields.bind (value _ _ _)
    intro _ _
    exact (skipLineEnd_yields _ _ _).bind fun _ _ => .ok trivial

section
variable (start : Mark)

theorem codePoint_yields (n : Nat) : FailsOnly IsKnown (codePoint n) := by
  cases read : codePoint n with
  | ok x => exact .ok trivial
  | error fault =>
    refine .error fun fault' same => ?_
    subst same
    exact .escape read

theorem scanEmptyLines_yields (fuel : Nat) (c : Cursor) :
    FailsOnly IsKnown (scanEmptyLines start fuel c) := by
  induction fuel generalizing c with
  | zero => exact .ok trivial
  | succ fuel ih =>
    simp only [scanEmptyLines]
    split
    · exact complain_yields _ _ _ _
    · split
      · exact (ih _).bind fun _ _ => .ok trivial
      · exact .ok trivial

theorem scanQuotedGap_yields (c : Cursor) : FailsOnly IsKnown (scanQuotedGap start c) := by
  unfold scanQuotedGap
  simp only
  split
  · exact complain_yields _ _ _ _
  · split
    · exact (scanEmptyLines_yields start _ _).bind fun _ _ => .ok trivial
    · exact .ok trivial

theorem scanEscape_yields (c : Cursor) : FailsOnly IsKnown (scanEscape start c) := by
  unfold scanEscape
  simp only
  split
  · exact .ok trivial
  · split
    · exact complain_yields _ _ _ _
    · exact (codePoint_yields _).bind fun _ _ => .ok trivial
  · split
    · exact scanEmptyLines_yields start _ _
    · exact complain_yields _ _ _ _

theorem scanQuotedWord_yields (double : Bool) (fuel : Nat) (c : Cursor) :
    FailsOnly IsKnown (scanQuotedWord double start fuel c) := by
  induction fuel generalizing c with
  | zero => exact .ok trivial
  | succ fuel ih =>
    simp only [scanQuotedWord]
    split
    · exact (ih _).bind fun _ _ => .ok trivial
    · split
      · exact (ih _).bind fun _ _ => .ok trivial
      · split
        · apply Yields.bind (scanEscape_yields start _)
          intro _ _
          exact (ih _).bind fun _ _ => .ok trivial
        · exact .ok trivial

theorem scanQuotedRest_yields (quote : CodePoint) (fuel : Nat) (c : Cursor) :
    FailsOnly IsKnown (scanQuotedRest quote start fuel c) := by
  induction fuel generalizing c with
  | zero => exact .ok trivial
  | succ fuel ih =>
    apply Yields.bind (scanQuotedWord_yields start _ _ _)
    intro word _
    simp only
    split
    · exact .ok trivial
    · apply Yields.bind (scanQuotedGap_yields start _)
      intro _ _
      exact (ih _).bind fun _ _ => .ok trivial

end

theorem scanQuoted_yields (c : Cursor) : FailsOnly IsKnown (scanQuoted c) :=
  (scanQuotedRest_yields _ _ _ _).bind fun _ _ => .ok trivial

theorem scanIndentation_yields (start : Mark) (c : Cursor) :
    FailsOnly IsKnown (scanIndentation start c) := by
  unfold scanIndentation
  simp only
  split
  · split
    · exact complain_yields _ _ _ _
    · exact .ok trivial
  · exact .ok trivial

theorem scanBlockHeader_yields (start : Mark) (c : Cursor) :
    FailsOnly IsKnown (scanBlockHeader start c) := by
  have closed (header : BlockHeader) (c : Cursor) : FailsOnly IsKnown
      (if !isSpaceOrEnd c.peek then unexpected .blockScalar start .indicators c
        else pure (header, c)) := by
    split
    · exact unexpected_yields _ _ _ _
    · exact .ok trivial
  unfold scanBlockHeader
  split
  · exact (scanIndentation_yields start _).bind fun _ _ => closed _ _
  · apply Yields.bind (scanIndentation_yields start _)
    intro _ _
    simp only
    split
    · exact closed _ _
    · exact closed _ _

theorem scanBlock_yields (around : Int) (c : Cursor) : FailsOnly IsKnown (scanBlock around c) := by
  apply Yields.bind (scanBlockHeader_yields _ _)
  intro _ _
  exact (skipLineEnd_yields _ _ _).bind fun _ _ => .ok trivial

namespace Lexer
variable (l : Lexer)

theorem pushScanned_yields {scanned : Scanned} (yields : FailsOnly IsKnown scanned) :
    FailsOnly IsKnown (l.pushScanned scanned) :=
  yields.bind fun _ _ => .ok trivial

theorem giveUp_yields (p : Candidate → Bool) : FailsOnly IsKnown (giveUp p l) := by
  unfold giveUp
  split
  · exact .error (complaint_known _)
  · exact .ok trivial

theorem giveUpPast_yields : FailsOnly IsKnown l.giveUpPast := giveUp_yields l _

theorem giveUpHere_yields : FailsOnly IsKnown l.giveUpHere := giveUp_yields l _

theorem noteCandidate_yields : FailsOnly IsKnown l.noteCandidate := by
  unfold noteCandidate
  split
  · exact (giveUpHere_yields l).bind fun _ _ => .ok trivial
  · exact .ok trivial

theorem leaveDocument_yields : FailsOnly IsKnown l.leaveDocument :=
  (giveUpHere_yields _).bind fun _ _ => .ok trivial

theorem fetchFlowStart_yields (lexeme : Lexeme) : FailsOnly IsKnown (fetchFlowStart lexeme l) :=
  (noteCandidate_yields l).bind fun _ _ => .ok trivial

theorem fetchFlowEnd_yields (lexeme : Lexeme) : FailsOnly IsKnown (fetchFlowEnd lexeme l) :=
  (giveUpHere_yields l).bind fun _ _ => .ok trivial

theorem fetchSeparator_yields (lexeme : Lexeme) : FailsOnly IsKnown (fetchSeparator lexeme l) :=
  (leaveDocument_yields l).bind fun _ _ => .ok trivial

theorem refuseUnlessAllowed_yields (problem : Problem) :
    FailsOnly IsKnown (refuseUnlessAllowed problem l) := by
  unfold refuseUnlessAllowed
  split
  · exact .ok trivial
  · exact .error (complaint_known _)

theorem fetchBlockEntry_yields : FailsOnly IsKnown l.fetchBlockEntry :=
  (refuseUnlessAllowed_yields l _).bind fun _ _ =>
    (giveUpHere_yields _).bind fun _ _ => .ok trivial

theorem fetchKey_yields : FailsOnly IsKnown l.fetchKey :=
  (refuseUnlessAllowed_yields l _).bind fun _ _ =>
    (giveUpHere_yields _).bind fun _ _ => .ok trivial

theorem fetchValue_yields : FailsOnly IsKnown l.fetchValue := by
  unfold fetchValue
  split
  · exact .ok trivial
  · exact (refuseUnlessAllowed_yields l _).bind fun _ _ =>
      (giveUpHere_yields _).bind fun _ _ => .ok trivial

theorem fetchNamed_yields {scan : Cursor → Scanned} (yields : ∀ c, FailsOnly IsKnown (scan c)) :
    FailsOnly IsKnown (fetchNamed scan l) :=
  (noteCandidate_yields l).bind fun _ _ => pushScanned_yields _ (yields _)

theorem fetch_yields : FailsOnly IsKnown l.fetch := by
  apply Yields.bind (giveUpPast_yields _)
  intro l _
  refine .ite ((leaveDocument_yields _).bind fun _ _ => .ok trivial) ?_
  refine .ite ((leaveDocument_yields _).bind fun _ _ =>
    pushScanned_yields _ (scanDirective_yields _)) ?_
  refine .ite (fetchSeparator_yields _ _) (.ite (fetchSeparator_yields _ _) ?_)
  refine .ite (fetchFlowStart_yields _ _) (.ite (fetchFlowStart_yields _ _) ?_)
  refine .ite (fetchFlowEnd_yields _ _) (.ite (fetchFlowEnd_yields _ _) ?_)
  refine .ite ((giveUpHere_yields _).bind fun _ _ => .ok trivial) ?_
  refine .ite (fetchBlockEntry_yields _) (.ite (fetchKey_yields _) (.ite (fetchValue_yields _) ?_))
  refine .ite (fetchNamed_yields _ scanAnchor_yields) (.ite (fetchNamed_yields _ scanTag_yields) ?_)
  refine .ite ((giveUpHere_yields _).bind fun _ _ => pushScanned_yields _ (scanBlock_yields _ _)) ?_
  refine .ite (fetchNamed_yields _ scanQuoted_yields) ?_
  exact .ite ((noteCandidate_yields _).bind fun _ _ => .ok trivial) (.error (complaint_known _))

theorem settle_yields (fuel : Nat) : FailsOnly IsKnown (settle fuel l) := by
  induction fuel generalizing l with
  | zero => exact .ok trivial
  | succ fuel ih =>
    simp only [settle]
    split
    · exact .ok trivial
    · split
      · exact (fetch_yields l).bind fun _ _ => ih _
      · apply Yields.bind (giveUpPast_yields l)
        intro l _
        split
        · exact (fetch_yields l).bind fun _ _ => ih _
        · exact .ok trivial

end Lexer

theorem feed_fault_known {t : Text} {fault : Fault} (found : (feed t).fault = some fault) :
    IsKnown fault := by
  have from' (fuel : Nat) (l : Lexer) (found : (feedFrom fuel l).fault = some fault) :
      IsKnown fault := by
    induction fuel generalizing l with
    | zero => cases found
    | succ fuel ih =>
      unfold feedFrom at found
      split at found
      · rename_i failed
        cases found
        exact (Lexer.settle_yields l _).of_error failed
      · split at found
        · cases found
        · exact ih _ found
  exact from' _ _ found

end ExposureLint.Yaml
