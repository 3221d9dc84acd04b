import Mathlib
import ExposureLint.Proofs.RemarkLines
import ExposureLint.Proofs.Rendering

/-!
What the channels of a check say about its verdict. The exit code, the record and the remarks follow
from three fields of a report, and they agree since these follow from the findings. All of that is
told as long as the findings can be written.
-/
namespace ExposureLint

/-! ### Phrases -/

/-- What may be said about a verdict besides the counts. -/
inductive Phrase
  | failed
  | warned
  | passed
  | declare
  | explain
  | strictly
  | blocked
  | allowed
  | clean
deriving DecidableEq

namespace Phrase

def kind : Phrase → Remark
  | failed => .failure
  | warned => .warning
  | passed => .success
  | declare | explain | strictly => .suggestion
  | blocked | allowed | clean => .info

def message : Phrase → Text
  | failed => "✘ Safety checks failed"
  | warned => "Safety checks completed with warnings"
  | passed => "✔ Safety checks passed"
  | declare => "Declare authentication in the OpenAPI document"
  | explain => "OR explicitly mark the route as public with a reason (x-public + x-reason)"
  | strictly => "Strict mode treats warnings as blocking"
  | blocked => "Deployment would be blocked."
  | allowed => "Deployment would be allowed."
  | clean => "No blocking issues detected."

def line (ph : Phrase) : Text := ph.kind.heading ++ ph.message

def emission (ph : Phrase) : Emission := .remark ph.kind ph.message

def all : List Phrase :=
  [failed, warned, passed, declare, explain, strictly, blocked, allowed, clean]

theorem mem_all (ph : Phrase) : ph ∈ all := by
  cases ph <;> decide

theorem line_injective : Function.Injective line := by
  have apart : ∀ a ∈ all, ∀ b ∈ all, a.line = b.line → a = b := by decide +kernel
  exact fun a b => apart a a.mem_all b b.mem_all

theorem isOrdinary (ph : Phrase) : ph.emission.IsOrdinary := by
  have each : ∀ ph ∈ all, ph.message.IsOrdinary ∧ ph.line.IsOrdinary := by decide +kernel
  exact .remark ⟨(each ph ph.mem_all).1, (each ph ph.mem_all).2⟩

theorem line_ne_nil (ph : Phrase) : ph.line ≠ [] := by
  cases ph <;> decide

def countStarts : List (Option CodePoint) :=
  [some (CodePoint.ofChar 'R'), some (CodePoint.ofChar 'P'), some (CodePoint.ofChar 'B')]

theorem head?_line (ph : Phrase) : ph.line.head? ∉ countStarts := by
  have each : ∀ ph ∈ all, ph.line.head? ∉ countStarts := by decide +kernel
  exact each ph ph.mem_all

end Phrase

/-! ### Counts -/

theorem Text.isColon_of_mem_ofNat {n : Nat} {c : CodePoint} (there : c ∈ ofNat n) :
    Emoji.isColon c = false :=
  CodePoint.eq_false_of_isAsciiDigit (isAsciiDigit_of_mem_ofNat there) ':' rfl

namespace Text.IsOrdinary
variable {s t : Text}

theorem ofNat (n : Nat) : (Text.ofNat n).IsOrdinary where
  characters := by
    intro c there
    have isDigit := Text.isAsciiDigit_of_mem_ofNat there
    have other := CodePoint.eq_false_of_isAsciiDigit isDigit
    have low : 0x30 ≤ c.val ∧ c.val ≤ 0x39 := by
      simpa [CodePoint.isAsciiDigit] using isDigit
    refine CodePoint.isOrdinary_iff.mpr
      ⟨?_, ?_, other _ rfl, other _ rfl, other _ rfl, other _ rfl⟩
    · simp [CodePoint.isSurrogate]
      omega
    · simp [CodePoint.isControl]
      omega
  nameless := Emoji.isNameless_of_noColon fun _ there => Text.isColon_of_mem_ofNat there

theorem append (first : s.IsOrdinary) (ended : ∀ c ∈ s.getLast?, Emoji.isColon c = false)
    (second : t.IsOrdinary) : (s ++ t).IsOrdinary where
  characters := List.forall_mem_append.mpr ⟨first.characters, second.characters⟩
  nameless := Emoji.isNameless_append first.nameless ended second.nameless

theorem counted {words : Text} (ordinary : words.IsOrdinary)
    (ended : ∀ c ∈ words.getLast?, Emoji.isColon c = false) (n : Nat) :
    (words ++ Text.ofNat n).IsOrdinary :=
  ordinary.append ended (ofNat n)

end Text.IsOrdinary

namespace Report
variable {r : Report} {strict : Bool} {p : Presentation}

theorem counts_cases {e : Emission} (counted : e ∈ r.counts) :
    e.IsOrdinary ∧ ∀ l, e.line? p = some l → l.head? ∈ Phrase.countStarts := by
  have info (words : Text) {rest : Text} (ordinary : (words ++ rest).IsOrdinary)
      (start : words.head? ∈ Phrase.countStarts) :
      (Emission.remark .info (words ++ rest)).IsOrdinary
        ∧ ∀ l, (Emission.remark .info (words ++ rest)).line? p = some l →
          l.head? ∈ Phrase.countStarts := by
    refine ⟨.remark ⟨ordinary, ordinary⟩, fun l shown => ?_⟩
    rw [Emission.line?] at shown
    split at shown
    · cases shown
      cases words with
      | nil => exact absurd start (by decide)
      | cons c more => exact start
    · cases shown
  simp only [counts, List.mem_cons, List.not_mem_nil, or_false] at counted
  obtain rfl | rfl | rfl | rfl := counted
  · exact info _ (.counted (by decide) (by decide) _) (by decide)
  · exact info _ (.counted (by decide) (by decide) _) (by decide)
  · exact info _ (.counted (by decide) (by decide) _) (by decide)
  · have rest : (Text.ofNat r.summary.block
        ++ (Text.ofString "  Warnings: " ++ Text.ofNat r.summary.warn)).IsOrdinary :=
      .append (.ofNat _) (fun c last => Text.isColon_of_mem_ofNat (List.mem_of_getLast? last))
        (.counted (by decide) (by decide) _)
    have whole := info "Blocking issues: " (.append (by decide) (by decide) rest) (by decide)
    simpa only [List.append_assoc] using whole

def phrases (strict : Bool) (r : Report) : List Phrase :=
  if r.isBlocking strict then
    .failed :: ((if r.summary.block != 0 then [.declare, .explain] else [.strictly]) ++ [.blocked])
  else if r.summary.warn != 0 then [.warned, .allowed]
  else [.passed, .clean]

theorem verdict_cons_advice (strict : Bool) (r : Report) :
    r.verdict strict :: r.advice strict = (r.phrases strict).map Phrase.emission := by
  unfold verdict advice phrases
  repeat' split
  all_goals rfl

theorem mem_remarks_iff {e : Emission} : e ∈ r.remarks strict
    ↔ e ∈ r.counts ∨ ∃ ph ∈ r.phrases strict, ph.emission = e := by
  have phrases := congrArg (e ∈ ·) (verdict_cons_advice strict r)
  simp only [List.mem_cons, List.mem_map, eq_iff_iff] at phrases
  rw [← phrases]
  simp only [remarks, List.mem_append, List.mem_singleton]
  tauto

theorem remarks_isOrdinary : ∀ e ∈ r.remarks strict, e.IsOrdinary := by
  intro e said
  obtain counted | ⟨ph, -, rfl⟩ := mem_remarks_iff.mp said
  · exact (counts_cases (p := ⟨.plain, true, false, false, ⟨0, none, false⟩⟩) counted).1
  · exact ph.isOrdinary

/-- The line of a phrase is shown just when the phrase is said and remarks of its kind are shown. -/
theorem line_mem_iff (ph : Phrase) : ph.line ∈ (r.remarks strict).filterMap (Emission.line? p)
    ↔ ph ∈ r.phrases strict ∧ ph.kind.isTold p = true := by
  have shown (other : Phrase) : other.emission.line? p = some ph.line
      ↔ other = ph ∧ ph.kind.isTold p = true := by
    rw [Phrase.emission, Emission.line?]
    split
    · rename_i told
      constructor
      · intro same
        obtain rfl := Phrase.line_injective (Option.some.inj same)
        exact ⟨rfl, told⟩
      · rintro ⟨rfl, -⟩
        rfl
    · rename_i untold
      refine iff_of_false (by simp) ?_
      rintro ⟨rfl, told⟩
      exact untold told
  rw [List.mem_filterMap]
  constructor
  · rintro ⟨e, said, told⟩
    obtain counted | ⟨other, among, rfl⟩ := mem_remarks_iff.mp said
    · -- the lines with the counts begin as no phrase does
      exact absurd ((counts_cases counted).2 _ told) ph.head?_line
    · obtain ⟨rfl, isTold⟩ := (shown other).mp told
      exact ⟨among, isTold⟩
  · rintro ⟨among, isTold⟩
    exact ⟨ph.emission, mem_remarks_iff.mpr (.inr ⟨ph, among, rfl⟩), (shown ph).mpr ⟨rfl, isTold⟩⟩

end Report

/-! ### Records -/

namespace Json

theorem join_append_singleton {separator last : Text} {parts : List Text} (some : parts ≠ []) :
    Text.join separator (parts ++ [last]) = Text.join separator parts ++ separator ++ last := by
  induction parts with
  | nil => exact absurd rfl some
  | cons part rest ih =>
    cases rest with
    | nil => simp [Text.join, List.intercalate_cons_cons]
    | cons next more =>
      have others := ih (by simp)
      simp only [Text.join] at others ⊢
      rw [List.cons_append, List.cons_append, List.intercalate_cons_cons, ← List.cons_append, others,
        List.intercalate_cons_cons]
      simp

theorem entryTexts_append {style : Style} {around : List Nat} {level : Nat}
    {entries more : List (Scalar × Value)} {texts : List Text}
    (written : entryTexts style around level (entries ++ more) = .ok texts) :
    ∃ first second, entryTexts style around level entries = .ok first
      ∧ entryTexts style around level more = .ok second ∧ texts = first ++ second
      ∧ first.length = entries.length := by
  induction entries generalizing texts with
  | nil => exact ⟨[], texts, rfl, written, rfl, rfl⟩
  | cons e rest ih =>
    obtain ⟨k, x⟩ := e
    simp only [List.cons_append, entryTexts, bind_eq_ok_iff] at written
    obtain ⟨key, keyed, t, valued, ts, others, made⟩ := written
    cases made
    obtain ⟨first, second, wrote, wrote', rfl, length⟩ := ih others
    refine ⟨(key ++ ": " ++ t) :: first, second, ?_, wrote', rfl, congrArg (· + 1) length⟩
    simp [entryTexts, keyed, valued, wrote, bind, Except.bind, pure, Except.pure]

/-- How a record ends whose last entry is a truth value: with that entry, one level deep. -/
theorem print_map_suffix (entries : List (Scalar × Value)) {name text : Text} {b : Bool}
    (some : entries ≠ []) (written :
      print .report (.map (entries ++ [(.text name, .bool b)])) = .ok text) :
    Text.ofString ",\n  " ++ quoted false name ++ Text.ofString ": "
      ++ Text.ofString (if b then "true" else "false") ++ Text.ofString "\n\x7d" <:+ text := by
  rw [print, valueText] at written
  obtain ⟨parts, made, put⟩ := bind_eq_ok_iff.mp written
  obtain ⟨first, second, -, last, rfl, length⟩ := entryTexts_append made
  cases put
  have nonempty : first ≠ [] := by
    rintro rfl
    exact some (List.length_eq_zero_iff.mp length.symm)
  obtain rfl : [quoted false name ++ Text.ofString ": "
      ++ Text.ofString (if b then "true" else "false")] = second := by
    cases b <;> exact Except.ok.inj last
  have full : (first ++ [quoted false name ++ Text.ofString ": "
      ++ Text.ofString (if b then "true" else "false")]).isEmpty = false := by simp
  refine ⟨CodePoint.ofChar '\x7b' :: lineBreak .report 1
    ++ Text.join (separator .report 1) first, ?_⟩
  rw [bracketed, full, join_append_singleton nonempty]
  simp only [Bool.false_eq_true, if_false, List.append_assoc, List.cons_append]
  rfl

end Json

/-! ### Reports that are returned -/

namespace Report
variable {r : Report} {strict : Bool} {p : Presentation}

def IsReturned [Host] (r : Report) : Prop :=
  (∃ disk root allowMissing, (ofProject disk root allowMissing).outcome.1 = .ok r)
    ∨ ∃ specPath document, (ofDocument specPath document).outcome.1 = .ok r

theorem IsReturned.eq_skipped_or_built [Host] (returned : r.IsReturned) :
    r = skippedReport ∨ ∃ specPath document, (ofDocument specPath document).outcome.1 = .ok r := by
  obtain ⟨disk, root, allowMissing, made⟩ | built := returned
  · have arises := (ofProject_leads disk root allowMissing).outcome
    rw [made] at arises
    cases arises with
    | skipped => exact .inl rfl
    | built _ _ _ _ made => exact .inr ⟨_, _, made⟩
  · exact .inr built

theorem IsReturned.isFaithful [Host] (returned : r.IsReturned) : r.IsFaithful := by
  obtain rfl | ⟨specPath, document, made⟩ := returned.eq_skipped_or_built
  · exact ⟨rfl, rfl⟩
  · exact .ofDocument made

theorem IsReturned.findings_eq_nil [Host] (returned : r.IsReturned) (skipped : r.skipped = true) :
    r.findings = [] := by
  obtain rfl | ⟨specPath, document, made⟩ := returned.eq_skipped_or_built
  · rfl
  · cases skipped.symm.trans (complete_of_ofDocument made)

namespace IsFaithful
variable (faithful : r.IsFaithful)
include faithful

theorem block_eq_zero_iff : r.summary.block = 0 ↔ ∀ f ∈ r.findings, f.severity ≠ .block := by
  simp [faithful.summary, Summary.ofFindings, Summary.ofSeverities, List.count_eq_zero]

theorem warn_eq_zero_iff : r.summary.warn = 0 ↔ ∀ f ∈ r.findings, f.severity ≠ .warn := by
  simp [faithful.summary, Summary.ofFindings, Summary.ofSeverities, List.count_eq_zero]

theorem findings_eq_nil_of_zero (block : r.summary.block = 0) (warn : r.summary.warn = 0) :
    r.findings = [] := by
  refine List.eq_nil_iff_forall_not_mem.mpr fun f there => ?_
  cases severity : f.severity with
  | block => exact faithful.block_eq_zero_iff.mp block f there severity
  | warn => exact faithful.warn_eq_zero_iff.mp warn f there severity

theorem block_eq_zero_of_pass (pass : r.isBlocking strict = false) : r.summary.block = 0 := by
  refine faithful.block_eq_zero_iff.mpr fun f there severity => ?_
  cases pass.symm.trans ((faithful.isBlocking_iff strict).mpr (.inl ⟨f, there, severity⟩))

theorem findings_ne_nil_of_warn (warn : r.summary.warn ≠ 0) : r.findings ≠ [] := by
  intro none
  refine warn (faithful.warn_eq_zero_iff.mpr fun f there => ?_)
  rw [none] at there
  cases there

theorem findings_ne_nil_of_blocking (stops : r.isBlocking strict = true) : r.findings ≠ [] := by
  obtain ⟨f, there, -⟩ | ⟨-, some⟩ := (faithful.isBlocking_iff strict).mp stops
  · exact List.ne_nil_of_mem there
  · exact some

theorem strict_of_blocking (stops : r.isBlocking strict = true) (block : r.summary.block = 0) :
    strict = true ∧ 0 < r.summary.warn := by
  obtain ⟨f, there, severity⟩ | ⟨isStrict, some⟩ := (faithful.isBlocking_iff strict).mp stops
  · exact absurd severity (faithful.block_eq_zero_iff.mp block f there)
  · refine ⟨isStrict, Nat.pos_of_ne_zero fun warn => some ?_⟩
    exact faithful.findings_eq_nil_of_zero block warn

end IsFaithful

/-! ### What is told -/

/-- What a plain telling of a report puts on the streams: the findings as data, and beside them the
lines that go with the verdict. -/
structure TellsPlainly (strict : Bool) (r : Report) (added : Streams) : Prop where
  failure : Phrase.failed.line ∈ added.remarks.lines ↔ r.isBlocking strict = true
  warnings : Phrase.warned.line ∈ added.remarks.lines
    ↔ r.isBlocking strict = false ∧ 0 < r.summary.warn
  passed : Phrase.passed.line ∈ added.remarks.lines → r.findings = []
  blocked : Phrase.blocked.line ∈ added.remarks.lines → r.isBlocking strict = true
  allowed : Phrase.allowed.line ∈ added.remarks.lines → r.isBlocking strict = false
  strictly : Phrase.strictly.line ∈ added.remarks.lines →
    strict = true ∧ r.summary.block = 0 ∧ 0 < r.summary.warn
  table : added.data = if r.findings = [] then []
    else (Finding.table r.findings).toLines.flatMap Text.ended

/-- What a telling of a report as a record puts on the streams: the record alone, which ends with
the verdict. -/
structure TellsRecord (strict : Bool) (r : Report) (added : Streams) : Prop where
  alone : added.remarks = []
  record : ∃ text, Json.print .report (r.toValue strict) = .ok text ∧ added.data = text.ended
  verdict : Text.ended (Text.ofString ",\n  \"blocking\": "
    ++ Text.ofString (if r.isBlocking strict then "true" else "false")
    ++ Text.ofString "\n\x7d") <:+ added.data

/-- A telling of a report in which all channels agree on the verdict. -/
structure TellsVerdict (p : Presentation) (strict : Bool) (r : Report) (s : Session)
    (ended : Except Failure Int × Session) : Prop where
  code : ended.1 = .ok (if r.isBlocking strict then 10 else 0)
  streams : ∃ added, ended.2 = s.wrote added
    ∧ (p.rendering = .json → r.TellsRecord strict added)
    ∧ (p.rendering = .plain → r.skipped = false → r.TellsPlainly strict added)

def told (p : Presentation) (strict : Bool) (r : Report) : Streams :=
  .all ((r.emissions p.rendering strict).map p.streamsOf)

theorem tellsRecord (json : p.rendering = .json) (able : (Answer.report r).CanBeTold p strict) :
    r.TellsRecord strict (r.told p strict) := by
  have emissions : r.emissions p.rendering strict = [.value (r.toValue strict)] := by
    rw [Report.emissions, json]
    rfl
  obtain ⟨pieces, made, -⟩ := able (.value (r.toValue strict)) (by simp [Answer.emissions, emissions])
  obtain ⟨text, valued, put⟩ := bind_eq_ok_iff.mp made
  cases put
  have written : Json.print .report (r.toValue strict) = .ok text := mapError_eq_ok_iff.mp valued
  have streams : r.told p strict = ⟨text.ended, []⟩ := by
    rw [told, emissions, List.map_singleton, Presentation.streamsOf, made]
    simp [Streams.all, Except.toOption, Piece.streams, Text.ended]
  rw [streams]
  refine ⟨rfl, ⟨text, written, rfl⟩, ?_⟩
  have named : Text.ofString ",\n  " ++ Json.quoted false "blocking" ++ Text.ofString ": "
      = Text.ofString ",\n  \"blocking\": " := by decide
  have last := Json.print_map_suffix r.toEntries (by simp [toEntries]) written
  rw [named] at last
  obtain ⟨start, rfl⟩ := last
  exact ⟨start, by simp only [Text.ended, List.append_assoc]⟩

/-! ### Plain tellings -/

theorem mem_phrases_iff (ph : Phrase) : ph ∈ r.phrases strict ↔
    match ph with
    | .failed | .blocked => r.isBlocking strict = true
    | .declare | .explain => r.isBlocking strict = true ∧ r.summary.block ≠ 0
    | .strictly => r.isBlocking strict = true ∧ r.summary.block = 0
    | .warned | .allowed => r.isBlocking strict = false ∧ r.summary.warn ≠ 0
    | .passed | .clean => r.isBlocking strict = false ∧ r.summary.warn = 0 := by
  unfold phrases
  cases ph <;> cases r.isBlocking strict <;> by_cases block : r.summary.block = 0
    <;> by_cases warn : r.summary.warn = 0 <;> simp [block, warn]

theorem streamsOf_table (plain : p.rendering = .plain) (t : Table) :
    p.streamsOf (.table t) = ⟨t.toLines.flatMap Text.ended, []⟩ := by
  have lines (ls : List Text) :
      Streams.all ((ls.map Piece.line).map Piece.streams) = ⟨ls.flatMap Text.ended, []⟩ := by
    induction ls with
    | nil => rfl
    | cons l rest ih =>
      rw [List.map_cons, List.map_cons, Streams.all, List.foldr_cons, ← Streams.all, ih]
      rfl
  rw [Presentation.streamsOf, Presentation.pieces, Presentation.tablePieces, plain]
  exact lines _

theorem told_plain (plain : p.rendering = .plain) (unskipped : r.skipped = false) :
    r.told p strict = ⟨if r.findings = [] then []
        else (Finding.table r.findings).toLines.flatMap Text.ended,
      ((r.remarks strict).filterMap (Emission.line? p)).flatMap Text.ended⟩ := by
  rw [told, emissions_eq (by simp [plain]) unskipped, List.map_append, Streams.all_append,
    Emission.IsOrdinary.streams_all remarks_isOrdinary]
  cases r.findings with
  | nil => rfl
  | cons f rest =>
    simp [streamsOf_table plain, Streams.all, Streams.ext_iff']

theorem line_mem_told_iff (strict : Bool) (plain : p.rendering = .plain)
    (unskipped : r.skipped = false) (ph : Phrase) : ph.line ∈ (r.told p strict).remarks.lines
      ↔ ph ∈ r.phrases strict ∧ ph.kind.isTold p = true := by
  rw [told_plain plain unskipped, Emission.IsOrdinary.lines_eq remarks_isOrdinary, List.mem_append,
    line_mem_iff, or_iff_left]
  intro empty
  have none : ph.line = [] := List.mem_singleton.mp empty
  exact ph.line_ne_nil none

/-- A plain telling agrees with the verdict unless the screen shows no remarks where some are due.
-/
theorem tellsPlainly_iff [Host] (returned : r.IsReturned) (plain : p.rendering = .plain)
    (unskipped : r.skipped = false) : r.TellsPlainly strict (r.told p strict)
      ↔ r.findings = [] ∨ p.noColor = true ∨ p.screen.columns ≠ 0 := by
  have faithful := returned.isFaithful
  have always (kind : Remark) (essential : kind.isShown p = true) :
      kind.isTold p = true ↔ p.noColor = true ∨ p.screen.columns ≠ 0 := by
    simp [Remark.isTold, essential]
  have mem (ph : Phrase) := line_mem_told_iff strict plain unskipped ph
  constructor
  · -- on a dark screen neither the failure nor the warnings are told, so there must be none
    intro tells
    by_contra neither
    obtain ⟨some, dark⟩ := not_or.mp neither
    have untold (ph : Phrase) (essential : ph.kind.isShown p = true) :
        ph.line ∉ (r.told p strict).remarks.lines := fun there =>
      dark ((always _ essential).mp ((mem ph).mp there).2)
    have pass : r.isBlocking strict = false :=
      Bool.eq_false_iff.mpr fun stops => untold .failed rfl (tells.failure.mpr stops)
    have warn : r.summary.warn = 0 := by
      by_contra warn
      exact untold .warned rfl (tells.warnings.mpr ⟨pass, Nat.pos_of_ne_zero warn⟩)
    exact some (faithful.findings_eq_nil_of_zero (faithful.block_eq_zero_of_pass pass) warn)
  · intro shown
    have due (found : r.findings ≠ []) : p.noColor = true ∨ p.screen.columns ≠ 0 :=
      shown.resolve_left found
    constructor
    · rw [mem, mem_phrases_iff]
      exact and_iff_left_of_imp fun stops =>
        (always _ rfl).mpr (due (faithful.findings_ne_nil_of_blocking stops))
    · rw [mem, mem_phrases_iff, Nat.pos_iff_ne_zero]
      exact and_iff_left_of_imp fun warned =>
        (always _ rfl).mpr (due (faithful.findings_ne_nil_of_warn warned.2))
    · intro there
      obtain ⟨pass, warn⟩ := (mem_phrases_iff _).mp ((mem _).mp there).1
      exact faithful.findings_eq_nil_of_zero (faithful.block_eq_zero_of_pass pass) warn
    · exact fun there => (mem_phrases_iff _).mp ((mem _).mp there).1
    · exact fun there => ((mem_phrases_iff _).mp ((mem _).mp there).1).1
    · intro there
      obtain ⟨stops, block⟩ := (mem_phrases_iff _).mp ((mem _).mp there).1
      obtain ⟨isStrict, warn⟩ := faithful.strict_of_blocking stops block
      exact ⟨isStrict, block, warn⟩
    · rw [told_plain plain unskipped]

/-- Telling a report tells its verdict just when the report can be told, and when on a plain screen
remarks are shown where some are due. A command line that comes to the report ends with telling it,
and so with the code for what must not be deployed just when the report says so and can be told. -/
theorem tellsVerdict_iff [Host] (strict : Bool) (s : Session) (returned : r.IsReturned)
    (installed : s.presentation = some p) (unblocked : s.blocked = none) :
    (r.TellsVerdict p strict s ((Cli.tell strict (.report r)).run s)
        ↔ (Answer.report r).HasForm p strict ∧ (p.rendering = .plain →
          r.findings = [] ∨ p.noColor = true ∨ p.screen.columns ≠ 0))
      ∧ ∀ (disk : Disk) (surroundings : Surroundings) (stamp : Text) (args : List Text) (line : Line),
        Line.ofArguments? args = some line → line.Reaches disk surroundings p strict (.report r) →
        (∃ s, s.Ready surroundings p ∧ (Cli.runArguments disk args).run (.start surroundings)
            = (Cli.tell strict (.report r)).run s)
          ∧ ((Cli.run disk surroundings stamp args).code = .ok 10
            ↔ r.isBlocking strict = true ∧ (Answer.report r).HasForm p strict) := by
  refine ⟨?_, fun disk surroundings stamp args line read reaches =>
    ⟨Cli.run_of_reaches read reaches, ?_⟩⟩
  · rw [← Answer.canBeTold_iff]
    constructor
    · intro tells
      by_cases able : (Answer.report r).CanBeTold p strict
      · refine ⟨able, fun plain => ?_⟩
        obtain ⟨-, added, streams, -, plainly⟩ := tells
        rw [Cli.run_tell installed unblocked able] at streams
        obtain rfl : r.told p strict = added := Session.wrote_inj streams
        cases skipped : r.skipped with
        | true => exact .inl (returned.findings_eq_nil skipped)
        | false => exact (tellsPlainly_iff returned plain skipped).mp (plainly plain skipped)
      · obtain ⟨m, s', failed, -⟩ := Cli.run_tell_error installed unblocked able
        have code := tells.code
        rw [failed] at code
        cases code
    · rintro ⟨able, shown⟩
      rw [Cli.run_tell installed unblocked able]
      refine ⟨rfl, r.told p strict, rfl, fun json => tellsRecord json able, fun plain unskipped => ?_⟩
      exact (tellsPlainly_iff returned plain unskipped).mpr (shown plain)
  · have able := (Cli.run_code_of_reaches stamp read reaches).1
    by_cases good : (Answer.report r).HasForm p strict
    · rw [able good, and_iff_left good]
      cases verdict : r.isBlocking strict <;> simp [Answer.code, verdict, Cli.unsafeCode]
    · -- a crash has a status of its own
      refine iff_of_false (fun ten => ?_) fun both => good both.2
      have status := (Cli.run_status_of_reaches stamp read reaches).2 good
      rw [Cli.Outcome.status, ten] at status
      exact absurd status (by decide)

def freshSession (p : Presentation) : Session := ⟨⟨false, []⟩, some p, none, .initial, .empty⟩

def plainPresentation : Presentation := ⟨.plain, false, false, false, ⟨80, some .sixteen, true⟩⟩

theorem open_write_tells_verdict :
    (Cli.openWriteReport.IsReturned
        ∧ (freshSession plainPresentation).presentation = some plainPresentation
        ∧ (freshSession plainPresentation).blocked = none
        ∧ Line.ofArguments? ["check"] = some Cli.checkLine
        ∧ Cli.checkLine.Reaches Cli.openWriteDisk ⟨false, []⟩ plainPresentation false
          (.report Cli.openWriteReport))
      ∧ Cli.openWriteReport.TellsVerdict plainPresentation false (freshSession plainPresentation)
        ((Cli.tell false (.report Cli.openWriteReport)).run (freshSession plainPresentation))
      ∧ (Cli.run Cli.openWriteDisk ⟨false, []⟩ [] ["check"]).code = .ok 10 := by
  have returned : Cli.openWriteReport.IsReturned := .inl ⟨_, _, _, Cli.ofProject_openWriteDisk⟩
  have presented : Cli.checkLine.presentation ⟨false, []⟩ = .ok plainPresentation := by
    decide +kernel
  have settled : Settings.resolve Cli.openWriteDisk [] Cli.checkLine.choices
      = .ok ⟨".", false, false, .auto⟩ := toOption_eq_some_iff.mp (by decide +kernel)
  have found : Answer.find Cli.openWriteDisk ⟨".", false, false, .auto⟩ .check
      = .ok (.report Cli.openWriteReport) := by
    rw [Answer.find, Cli.ofProject_openWriteDisk]
    rfl
  have reaches := Line.Reaches.intro presented settled found
  have form : (Answer.report Cli.openWriteReport).HasForm plainPresentation false := by
    show Cli.openWriteReport.skipped = true ∨ Cli.openWriteReport.findings = [] ∨ ∀ row ∈
      Finding.headers :: Cli.openWriteReport.findings.map Finding.row,
        ∀ cell ∈ row, cell.isWellFormed = true
    decide +kernel
  obtain ⟨tells, run⟩ := tellsVerdict_iff false
    (freshSession plainPresentation) returned rfl rfl
  refine ⟨⟨returned, rfl, rfl, Cli.ofArguments?_checkLine, reaches⟩,
    tells.mpr ⟨form, fun _ => .inr (.inr (by decide))⟩, ?_⟩
  exact (run _ _ _ _ _ Cli.ofArguments?_checkLine reaches).2.mpr ⟨by decide, form⟩

/-- A project with a write that anyone may make, below a path with half of a surrogate pair in it.
-/
def loneSurrogateDisk : Disk := .withFile "openapi.json"
  "\x7b\"openapi\": \"3.0.0\", \"info\": \x7b\x7d, \"paths\": \x7b\"/a\\ud800\": \x7b\"post\": \x7b\"requestBody\": 1\x7d\x7d\x7d\x7d"

/-- Half of a surrogate pair has no form in bytes, and so a report with one crashes where it is
told, although it says that nothing must be deployed. -/
theorem lone_surrogate_tells_nothing :
    (∃ r, (ofProject loneSurrogateDisk "." false).outcome.1 = .ok r ∧ r.isBlocking false = true)
      ∧ (Cli.run loneSurrogateDisk ⟨false, []⟩ [] ["check"]).code = .ok 1
      ∧ (Cli.run loneSurrogateDisk ⟨false, []⟩ [] ["--json", "check"]).code = .ok 1 := by
  have built : ((ofProject loneSurrogateDisk "." false).outcome.1.toOption.map
      (isBlocking false)) = some true := by decide +kernel
  obtain ⟨r, made, blocking⟩ := Option.map_eq_some_iff.mp built
  refine ⟨⟨r, toOption_eq_some_iff.mp made, blocking⟩, ?_, ?_⟩
  · exact toOption_eq_some_iff.mp (by decide +kernel)
  · exact toOption_eq_some_iff.mp (by decide +kernel)

end Report
end ExposureLint
