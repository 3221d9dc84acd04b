import Mathlib
import ExposureLint.Cli.Run
import ExposureLint.Proofs.SideBySide

/-!
Sessions that show the same data, whatever remarks they show and whatever their logs let through. An
act that is done in two such sessions comes to the same in both, and puts the same on their data
streams.
-/
namespace ExposureLint

/-- Presentations that show the same data; they may show different remarks. -/
structure Presentation.SameData (p p' : Presentation) : Prop where
  rendering : p.rendering = p'.rendering
  noColor : p.noColor = p'.noColor
  screen : p.screen = p'.screen

inductive Piece.SameData : Piece → Piece → Prop
  | line (t : Text) : SameData (.line t) (.line t)
  | drawing (t : Text) : SameData (.drawing t) (.drawing t)
  | remark (t t' : Text) : SameData (.remark t) (.remark t')

/-- Sessions in the same surroundings, with the same data so far, which they show alike. -/
structure Session.SameData (around : Surroundings) (s s' : Session) : Prop where
  place : s.surroundings = around
  place' : s'.surroundings = around
  presentation : Option.Rel Presentation.SameData s.presentation s'.presentation
  blocked : s.blocked = s'.blocked
  data : s.streams.data = s'.streams.data

theorem Piece.SameData.refl : ∀ piece : Piece, piece.SameData piece
  | .line t => .line t
  | .drawing t => .drawing t
  | .remark t => .remark t t

namespace Presentation.SameData
variable {p p' : Presentation}

theorem tablePieces (same : p.SameData p') (t : Table) : p.tablePieces t = p'.tablePieces t := by
  simp only [Presentation.tablePieces, same.rendering, same.screen]

theorem pieces (same : p.SameData p') (e : Emission) :
    GoAlike (List.Forall₂ Piece.SameData) (p.pieces e) (p'.pieces e) := by
  have refl (r : Except Failure (List Piece)) : GoAlike (List.Forall₂ Piece.SameData) r r :=
    (GoAlike.same r).mono fun _ _ equal => equal ▸ List.forall₂_same.mpr fun piece _ => .refl piece
  cases e with
  | data t => exact refl _
  | value v => exact refl _
  | table t =>
    simp only [Presentation.pieces, same.tablePieces]
    exact refl _
  | remark kind message => exact .ok (.cons (.remark _ _) .nil)

theorem make {surroundings : Surroundings} {format : OutputFormat}
    {noColor quiet verbose quiet' verbose' : Bool} :
    GoAlike SameData (Presentation.make surroundings format noColor quiet verbose)
      (Presentation.make surroundings format noColor quiet' verbose') := by
  simp only [Presentation.make]
  exact .bind (.same _) fun columns _ equal => equal ▸ .ok ⟨rfl, rfl, rfl⟩

end Presentation.SameData

namespace Act
variable {α β : Type} {Q : α → β → Prop} {p p' : Presentation} {around : Surroundings}

/-- From sessions with the same data, two acts go alike and leave sessions with the same data. -/
abbrev SaysAlike (around : Surroundings) (Q : α → β → Prop) (x : Act α) (y : Act β) : Prop :=
  RunAlike (Session.SameData around) Q x y

/-- Two acts that come to nothing but what they say. -/
abbrev TellsAlike (around : Surroundings) (x y : Act Unit) : Prop :=
  SaysAlike around (fun _ _ => True) x y

theorem saysAlike_ofExcept {r : Except Failure α} {r' : Except Failure β} (alike : GoAlike Q r r') :
    SaysAlike around Q (ofExcept r) (ofExcept r') := by
  cases alike with
  | ok related => exact .pure related
  | error e => exact .throw e

theorem saysAlike_ofNumber {r : Except Numeral.Fault α} {r' : Except Numeral.Fault β}
    (alike : GoAlike Q r r') : SaysAlike around Q (ofNumber r) (ofNumber r') := by
  cases alike with
  | ok related => exact .pure related
  | error e => exact .throw _

theorem tellsAlike_install (same : p.SameData p') : TellsAlike around (install p) (install p') :=
  .update fun _ _ kept => ⟨kept.place, kept.place', .some same, rfl, kept.data⟩

theorem tellsAlike_write {streams streams' : Streams} (same : streams.data = streams'.data) :
    TellsAlike around (write streams) (write streams') :=
  .update fun _ _ kept => ⟨kept.place, kept.place', kept.presentation, kept.blocked,
    congrArg₂ (· ++ ·) kept.data same⟩

theorem saysAlike_current : SaysAlike around Presentation.SameData current current := by
  unfold current
  refine .get_bind fun s s' kept => ?_
  obtain ⟨place, place', installed, -, -⟩ := kept
  generalize s.presentation = shown at installed ⊢
  generalize s'.presentation = shown' at installed ⊢
  cases installed with
  | some same => exact .pure same
  | none =>
    rw [place, place']
    refine .bind (saysAlike_ofNumber Presentation.SameData.make) fun p p' same => ?_
    exact .bind (tellsAlike_install same) fun _ _ _ => .pure same

theorem saysAlike_present {format : OutputFormat} {noColor quiet verbose quiet' verbose' : Bool} :
    SaysAlike around Presentation.SameData (present format noColor quiet verbose)
      (present format noColor quiet' verbose') := by
  unfold present
  refine .get_bind fun s s' kept => ?_
  rw [kept.place, kept.place']
  refine .bind (saysAlike_ofNumber Presentation.SameData.make) fun p p' same => ?_
  exact .bind (tellsAlike_install same) fun _ _ _ => .pure same

theorem saysAlike_applyFormat (format : OutputFormat) :
    SaysAlike around Presentation.SameData (applyFormat format) (applyFormat format) := by
  unfold applyFormat
  refine .bind saysAlike_current fun p p' same => ?_
  cases format.rendering? with
  | none => exact .pure same
  | some rendering =>
    simp only [same.rendering]
    split
    · exact .pure same
    · rw [same.noColor]
      exact saysAlike_present

theorem tellsAlike_put {piece piece' : Piece} (same : piece.SameData piece') :
    TellsAlike around (put piece) (put piece') := by
  cases same with
  | remark t t' => exact tellsAlike_write rfl
  | line t =>
    simp only [put]
    split
    · exact .throw _
    · exact tellsAlike_write rfl
  | drawing t =>
    simp only [put]
    split
    · refine .bind (.update fun _ _ kept => ?_) fun _ _ _ => .throw _
      exact ⟨kept.place, kept.place', kept.presentation, rfl, kept.data⟩
    · exact tellsAlike_write rfl

theorem tellsAlike_say (e : Emission) : TellsAlike around (say e) (say e) := by
  unfold say
  refine .bind saysAlike_current fun p p' same => .get_bind fun s s' kept => ?_
  rw [same.rendering, kept.blocked]
  -- whether a drawing is blocked is the same on both sides, and so is what is said otherwise
  have shown : TellsAlike around (ofExcept (p.pieces e) >>= fun pieces => pieces.forM put)
      (ofExcept (p'.pieces e) >>= fun pieces => pieces.forM put) :=
    .bind (saysAlike_ofExcept (same.pieces e)) fun _ _ alike =>
      .forM (fun _ _ => tellsAlike_put) alike
  split
  · exact .throw _
  · exact shown

theorem tellsAlike_remark (kind : Remark) (message : Text) :
    TellsAlike around (remark kind message) (remark kind message) := tellsAlike_say _

theorem tellsAlike_sayAll (es : List Emission) : TellsAlike around (sayAll es) (sayAll es) :=
  .forM (D := Eq) (fun e _ equal => equal ▸ tellsAlike_say e) (List.forall₂_refl es)

theorem tellsAlike_configureLog : TellsAlike around configureLog configureLog := by
  unfold configureLog
  refine .bind saysAlike_current fun p p' _ => .update fun _ _ kept => ?_
  exact ⟨kept.place, kept.place', kept.presentation, kept.blocked, kept.data⟩

theorem tellsAlike_note (n : Note) : TellsAlike around (note n) (note n) := by
  unfold note
  exact .get_bind fun _ _ _ => tellsAlike_write rfl

theorem saysAlike_take (step : Step α) : SaysAlike around Eq (take step) (take step) := by
  unfold take
  refine .bind (.forM (D := Eq) (fun n _ equal => equal ▸ tellsAlike_note n)
    (List.forall₂_refl _)) fun _ _ _ => ?_
  exact saysAlike_ofExcept (.same _)

end Act

namespace Cli
open Act
variable {α β : Type} {Q : α → β → Prop} {around : Surroundings}

theorem saysAlike_orTell [Host] {x : Act α} {y : Act β} {next : α → Act Int} {next' : β → Act Int}
    (first : SaysAlike around Q x y)
    (later : ∀ a b, Q a b → SaysAlike around Eq (next a) (next' b)) :
    SaysAlike around Eq (orTell x next) (orTell y next') := by
  unfold orTell
  have tried : SaysAlike around (GoAlike Q) (attempt x) (attempt y) :=
    fun s t kept => ⟨.ok (first s t kept).1, (first s t kept).2⟩
  refine .bind tried fun r r' alike => ?_
  cases alike with
  | ok related => exact later _ _ related
  | error f =>
    cases f with
    | lint e => exact .bind (tellsAlike_remark _ _) fun _ _ _ => .pure rfl
    | mishap m => exact .throw _

theorem tellsAlike_settled (settings : Settings) :
    TellsAlike around (settled settings) (settled settings) := by
  unfold settled
  refine .bind (saysAlike_applyFormat _) fun _ _ _ => ?_
  refine .bind (saysAlike_ofExcept (.same _)) fun shown _ equal => ?_
  exact equal ▸ tellsAlike_remark _ _

theorem saysAlike_check [Host] (disk : Disk) (settings : Settings) :
    SaysAlike around Eq (check disk settings) (check disk settings) := by
  refine saysAlike_orTell (saysAlike_take _) fun r _ equal => ?_
  subst equal
  refine .bind saysAlike_current fun p p' same => ?_
  rw [same.rendering]
  exact .bind (tellsAlike_sayAll _) fun _ _ _ => .pure rfl

theorem saysAlike_routes [Host] (disk : Disk) (settings : Settings) :
    SaysAlike around Eq (routes disk settings) (routes disk settings) := by
  refine saysAlike_orTell (saysAlike_take _) fun document _ equal => ?_
  subst equal
  refine .bind (saysAlike_ofExcept (.same _)) fun ops _ equal => ?_
  subst equal
  split
  · exact .bind (tellsAlike_remark _ _) fun _ _ _ => .pure rfl
  · exact .bind (tellsAlike_say _) fun _ _ _ => .pure rfl

theorem saysAlike_perform [Host] (disk : Disk) (format : OutputFormat) (command : Command)
    (choices : CommandChoices) :
    SaysAlike around Eq (perform disk format command choices)
      (perform disk format command choices) := by
  unfold perform
  refine .get_bind fun s s' kept => ?_
  rw [kept.place, kept.place']
  refine saysAlike_orTell (saysAlike_ofExcept (.same _)) fun settings _ equal => ?_
  subst equal
  refine .bind (tellsAlike_settled settings) fun _ _ _ => ?_
  cases command with
  | check => exact saysAlike_check disk settings
  | routes => exact saysAlike_routes disk settings

theorem saysAlike_refuse (command : Option Command) (refusal : Refusal) :
    SaysAlike around Eq (refuse command refusal) (refuse command refusal) := by
  have columns : SaysAlike around Eq refuse.screenColumns refuse.screenColumns := by
    refine .get_bind fun s s' kept => ?_
    rw [kept.place, kept.place']
    exact saysAlike_ofNumber (.same _)
  cases refusal with
  | asked request =>
    cases request with
    | version => exact .bind (tellsAlike_write rfl) fun _ _ _ => .pure rfl
    | help => exact .bind columns fun _ _ _ => .bind (tellsAlike_write rfl) fun _ _ _ => .pure rfl
  | noArguments =>
    exact .bind columns fun _ _ _ => .bind (tellsAlike_write rfl) fun _ _ _ => .pure rfl
  | misuse m =>
    exact .bind columns fun _ _ _ => .bind (tellsAlike_write rfl) fun _ _ _ => .pure rfl

end Cli
end ExposureLint
