import Mathlib
import ExposureLint.Proofs.EffectiveFormat

/-!
The presentation of a session after any history. It is the one for the flags and the format that
were asked for last, by installing a presentation or by switching to a format with a name; what is
said in between has no part in it. Taking the presentation away ends a history.
-/
namespace ExposureLint

/-! ### Histories -/

structure Flags where
  noColor : Bool
  quiet : Bool
  verbose : Bool
deriving DecidableEq

namespace Flags

def none : Flags := ⟨false, false, false⟩

def presentation (surroundings : Surroundings) (format : OutputFormat) (flags : Flags) :
    Except Numeral.Fault Presentation :=
  Presentation.make surroundings format flags.noColor flags.quiet flags.verbose

end Flags

/-- What may be done in a session from outside. -/
inductive Deed
  | present (format : OutputFormat) (flags : Flags)
  | reset
  | switch (name : Text)
  | say (e : Emission)
  | configureLog
  | note (n : Note)

namespace Deed

def act : Deed → Act Unit
  | present format flags => do
    let _ ← Act.present format flags.noColor flags.quiet flags.verbose
  | reset => Act.reset
  | switch name => do
    let _ ← Act.applyNamed name
  | say e => Act.say e
  | configureLog => Act.configureLog
  | note n => Act.note n

def isReset : Deed → Bool
  | reset => true
  | _ => false

def flags? : Deed → Option Flags
  | present _ flags => some flags
  | _ => none

/-- The format that a deed asks for. To switch to `auto` asks for none, and neither does a name that
no format has. -/
def format? : Deed → Option OutputFormat
  | present format _ => some format
  | switch name => (OutputFormat.ofName? name).filter (· != .auto)
  | _ => none

/-- The deeds since the last reset, the last of them first. -/
def lately (deeds : List Deed) : List Deed := deeds.reverse.takeWhile fun d => !d.isReset

def lastFlags (history : List Deed) : Flags := (history.findSome? flags?).getD .none
def lastFormat (history : List Deed) : OutputFormat := (history.findSome? format?).getD .auto

theorem lately_concat (deeds : List Deed) (d : Deed) :
    lately (deeds ++ [d]) = if d.isReset then [] else d :: lately deeds := by
  rw [lately, List.reverse_concat, List.takeWhile_cons]
  cases d.isReset <;> rfl

end Deed

/-- The state of a session after some deeds, each of which may fail. -/
def Session.after (s : Session) (deeds : List Deed) : Session :=
  deeds.foldl (fun s d => (d.act.run s).2) s

theorem Session.after_concat (s : Session) (deeds : List Deed) (d : Deed) :
    s.after (deeds ++ [d]) = (d.act.run (s.after deeds)).2 := by
  rw [after, List.foldl_concat, after]

/-! ### Making a presentation -/

namespace Presentation
variable {surroundings : Surroundings} {format : OutputFormat} {noColor quiet verbose : Bool}
  {p : Presentation}

/-- Only the size of the screen can be faulty, whatever is asked for. -/
theorem make_eq_error_iff {fault : Numeral.Fault} :
    make surroundings format noColor quiet verbose = .error fault
      ↔ surroundings.columns = .error fault := by
  cases sized : surroundings.columns with
  | error e => simp [make, sized, bind, Except.bind]
  | ok columns => simp [make, sized, bind, Except.bind, pure, Except.pure]

theorem make_fields (made : make surroundings format noColor quiet verbose = .ok p) :
    p.quiet = quiet ∧ p.verbose = verbose ∧ p.noColor = (noColor || surroundings.noColor)
      ∧ p.rendering = settle surroundings.isTerminal p.noColor format := by
  obtain ⟨columns, -, built⟩ := bind_eq_ok_iff.mp made
  cases built
  exact ⟨rfl, rfl, rfl, rfl⟩

theorem inFormat_auto (p : Presentation) : p.inFormat .auto = p := rfl

theorem inFormat_own (p : Presentation) : p.inFormat p.rendering.format = p := by
  cases p with
  | mk rendering _ _ _ _ => cases rendering <;> rfl

end Presentation

theorem Rendering.format_ne_auto (r : Rendering) : r.format ≠ .auto := by
  cases r <;> decide

namespace Act
variable {s s' : Session} {p : Presentation} {format : OutputFormat} {noColor quiet verbose : Bool}
  {name : Text}

theorem run_current_absent (absent : s.presentation = none) : current.run s =
    match Presentation.standard s.surroundings with
    | .ok p => (.ok p, s.showing p)
    | .error fault => (.error (.mishap (.number fault)), s) := by
  rw [current, run_bind_ok run_get, absent]
  cases made : Presentation.standard s.surroundings with
  | error fault => rfl
  | ok p =>
    have other : ¬ s.presentation = some p := by simp [absent]
    have shows : s.showing p = { s with presentation := some p, blocked := none } := if_neg other
    simp only [shows]
    rfl

theorem run_current_ok (shown : current.run s = (.ok p, s')) :
    s'.presentation = some p ∧ s' = s.showing p := by
  cases installed : s.presentation with
  | some q =>
    cases shown.symm.trans (run_current installed)
    exact ⟨installed, (Session.showing_of_installed installed).symm⟩
  | none =>
    rw [run_current_absent installed] at shown
    split at shown
    · cases shown
      exact ⟨Session.showing_presentation, rfl⟩
    · cases shown

theorem run_applyNamed (shown : current.run s = (.ok p, s')) (name : Text) :
    (applyNamed name).run s = match OutputFormat.ofName? name with
      | some format => (applyFormat format).run s'
      | none => (.error (.mishap (.unknownFormat name)), s') := by
  rw [applyNamed, run_bind_ok shown, run_bind, formatNamed]
  cases OutputFormat.ofName? name <;> rfl

theorem run_applyNamed_error {f : Failure} (failed : current.run s = (.error f, s')) (name : Text) :
    (applyNamed name).run s = (.error f, s') := by
  rw [applyNamed, run_bind_error failed]

/-! ### Acts that leave the presentation alone -/

section
variable {α β : Type}

def IsAside (a : Act α) : Prop := ∀ s : Session, s.Continues (a.run s).2

namespace IsAside

theorem ofExcept (r : Except Failure α) : (Act.ofExcept r).IsAside := by
  intro s
  rw [run_ofExcept]
  exact .refl s

theorem bind {a : Act α} {f : α → Act β} (first : a.IsAside) (next : ∀ x, (f x).IsAside) :
    (a >>= f).IsAside := by
  intro s
  have before := first s
  rw [run_bind]
  rcases ran : a.run s with ⟨r, s'⟩
  rw [ran] at before
  cases r with
  | error e => exact before
  | ok x => exact before.trans (next x s')

theorem put (piece : Piece) : (Act.put piece).IsAside := by
  intro s
  cases writable : piece.isWritable with
  | true =>
    rw [run_put writable]
    exact .wrote s _
  | false =>
    obtain ⟨m, s', failed, same, -⟩ := run_put_error (s := s) writable
    rw [failed]
    exact same

theorem putAll (pieces : List Piece) : (pieces.forM Act.put).IsAside := by
  induction pieces with
  | nil => exact fun s => .refl s
  | cons piece rest ih =>
    rw [List.forM]
    exact (put piece).bind fun _ => ih

end IsAside

end

end Act

/-! ### What a session keeps track of -/

open Deed

/-- A session and the history since its last reset: what is installed is the presentation for the
last flags and the last format. There is none only where none can be made, or where nothing was
asked for. -/
structure Session.Tracks (surroundings : Surroundings) (history : List Deed) (s : Session) :
    Prop where
  place : s.surroundings = surroundings
  made : ∀ p, s.presentation = some p →
    (lastFlags history).presentation surroundings (lastFormat history) = .ok p
  unmade : s.presentation = none → (∃ fault, surroundings.columns = .error fault)
    ∨ lastFlags history = .none ∧ lastFormat history = .auto

namespace Session.Tracks
variable {surroundings : Surroundings} {history : List Deed} {s s' : Session} {d : Deed}
  {p : Presentation}

theorem start (surroundings : Surroundings) :
    (Session.start surroundings).Tracks surroundings [] where
  place := rfl
  made := nofun
  unmade := fun _ => .inr ⟨rfl, rfl⟩

theorem of_continues (tracks : s.Tracks surroundings history) (same : s.Continues s') :
    s'.Tracks surroundings history where
  place := same.surroundings.trans tracks.place
  made := fun p installed => tracks.made p (same.presentation ▸ installed)
  unmade := fun absent => tracks.unmade (same.presentation ▸ absent)

theorem cons (tracks : s.Tracks surroundings history) (noFlags : d.flags? = none)
    (noFormat : d.format? = none) : s.Tracks surroundings (d :: history) := by
  have flags : lastFlags (d :: history) = lastFlags history := by
    rw [lastFlags, List.findSome?_cons, noFlags, lastFlags]
  have format : lastFormat (d :: history) = lastFormat history := by
    rw [lastFormat, List.findSome?_cons, noFormat, lastFormat]
  refine ⟨tracks.place, ?_, ?_⟩
  · rw [flags, format]
    exact tracks.made
  · rw [flags, format]
    exact tracks.unmade

theorem showing (place : s.surroundings = surroundings)
    (made : (lastFlags history).presentation surroundings (lastFormat history) = .ok p) :
    (s.showing p).Tracks surroundings history where
  place := showing_surroundings.trans place
  made := by
    intro q installed
    obtain rfl := Option.some.inj (showing_presentation.symm.trans installed)
    exact made
  unmade := by
    intro absent
    cases showing_presentation.symm.trans absent

theorem current (tracks : s.Tracks surroundings history) :
    (∃ p, Act.current.run s = (.ok p, s.showing p) ∧ (s.showing p).Tracks surroundings history)
      ∨ ∃ fault, surroundings.columns = .error fault ∧ s.presentation = none
        ∧ Act.current.run s = (.error (.mishap (.number fault)), s) := by
  cases installed : s.presentation with
  | some p =>
    left
    refine ⟨p, ?_⟩
    rw [showing_of_installed installed]
    exact ⟨Act.run_current installed, tracks⟩
  | none =>
    rw [Act.run_current_absent installed]
    cases made : Presentation.standard s.surroundings with
    | error fault =>
      right
      have faulty := Presentation.make_eq_error_iff.mp made
      exact ⟨fault, tracks.place ▸ faulty, rfl, rfl⟩
    | ok p =>
      left
      refine ⟨p, rfl, showing tracks.place ?_⟩
      rw [tracks.place] at made
      rcases tracks.unmade installed with ⟨fault, faulty⟩ | ⟨flags, format⟩
      · have refused : Presentation.standard surroundings = .error fault :=
          Presentation.make_eq_error_iff.mpr faulty
        cases refused.symm.trans made
      · rw [flags, format]
        exact made

theorem bind_current (tracks : s.Tracks surroundings history) {f : Presentation → Act Unit}
    (aside : ∀ p, (f p).IsAside) : ((Act.current >>= f).run s).2.Tracks surroundings history := by
  rcases tracks.current with ⟨p, shown, after⟩ | ⟨fault, -, -, failed⟩
  · rw [Act.run_bind_ok shown]
    exact after.of_continues (aside p _)
  · rw [Act.run_bind_error failed]
    exact tracks

theorem say (tracks : s.Tracks surroundings history) (e : Emission) :
    ((Act.say e).run s).2.Tracks surroundings history := by
  refine tracks.bind_current fun p => ?_
  have get : Act.IsAside (MonadState.get : Act Session) := fun s => .refl s
  refine get.bind fun s => ?_
  split
  · exact .ofExcept (.error _)
  · exact (Act.IsAside.ofExcept _).bind fun pieces => .putAll pieces

theorem present (tracks : s.Tracks surroundings history) (format : OutputFormat) (flags : Flags) :
    ((Deed.present format flags).act.run s).2.Tracks surroundings
      (.present format flags :: history) := by
  have lastly : (lastFlags (.present format flags :: history)).presentation surroundings
      (lastFormat (.present format flags :: history))
        = flags.presentation surroundings format := rfl
  cases made : flags.presentation s.surroundings format with
  | ok p =>
    have ran := Act.run_present made
    rw [act, Act.run_bind_ok ran]
    rw [tracks.place] at made
    refine ⟨tracks.place, ?_, nofun⟩
    intro q installed
    rw [lastly, made]
    exact congrArg Except.ok (Option.some.inj installed)
  | error fault =>
    have ran := Act.run_present_error made
    rw [act, Act.run_bind_error ran]
    have faulty : surroundings.columns = .error fault :=
      tracks.place ▸ Presentation.make_eq_error_iff.mp made
    refine ⟨tracks.place, ?_, fun _ => .inl ⟨fault, faulty⟩⟩
    intro p installed
    -- Where a size is faulty no presentation was made before either.
    have refused : (lastFlags history).presentation surroundings (lastFormat history)
        = .error fault := Presentation.make_eq_error_iff.mpr faulty
    cases refused.symm.trans (tracks.made p installed)

theorem switch (tracks : s.Tracks surroundings history) (name : Text) :
    ((Deed.switch name).act.run s).2.Tracks surroundings (.switch name :: history) := by
  rcases tracks.current with ⟨p, shown, after⟩ | ⟨fault, faulty, absent, failed⟩
  · have ran := Act.run_applyNamed shown name
    have installed : (s.showing p).presentation = some p := showing_presentation
    have made := after.made p installed
    cases known : OutputFormat.ofName? name with
    | none =>
      rw [known] at ran
      rw [act, Act.run_bind_error ran]
      exact after.cons rfl (by rw [format?, known]; rfl)
    | some format =>
      rw [known] at ran
      have applied := Act.run_applyFormat_eq installed (after.place ▸ made) format
      rw [act, Act.run_bind_ok (ran.trans applied)]
      cases asked : format.rendering? with
      | none =>
        have auto : format = .auto := by cases format <;> first | rfl | cases asked
        rw [auto, Presentation.inFormat_auto, showing_of_installed installed]
        exact after.cons rfl (by rw [format?, known, auto]; rfl)
      | some rendering =>
        have closed : (format != .auto) = true := by cases format <;> first | rfl | cases asked
        have lastly : lastFormat (.switch name :: history) = format := by
          rw [lastFormat, List.findSome?_cons, format?, known, Option.filter_some, if_pos closed]
          rfl
        refine showing (showing_surroundings.trans tracks.place) ?_
        rw [lastly]
        exact Presentation.make_inFormat made asked
  · rw [act, Act.run_bind_error (Act.run_applyNamed_error failed name)]
    refine ⟨tracks.place, ?_, fun _ => .inl ⟨fault, faulty⟩⟩
    intro p installed
    cases absent.symm.trans installed

/-- Every deed keeps track, and a reset begins a new history. -/
theorem step (tracks : s.Tracks surroundings history) (d : Deed) :
    (d.act.run s).2.Tracks surroundings (if d.isReset then [] else d :: history) := by
  cases d with
  | present format flags => exact tracks.present format flags
  | reset => exact ⟨tracks.place, nofun, fun _ => .inr ⟨rfl, rfl⟩⟩
  | switch name => exact tracks.switch name
  | say e => exact (tracks.say e).cons rfl rfl
  | configureLog =>
    have aside (p : Presentation) : Act.IsAside (modify fun s : Session =>
        { s with log := s.log.configure p }) := fun s => ⟨rfl, rfl⟩
    exact (tracks.bind_current aside).cons rfl rfl
  | note n => exact (tracks.of_continues (.wrote s _)).cons rfl rfl

/-- After any deeds a session keeps track of those since the last reset. -/
theorem after (surroundings : Surroundings) (deeds : List Deed) :
    ((Session.start surroundings).after deeds).Tracks surroundings (lately deeds) := by
  induction deeds using List.reverseRecOn with
  | nil => exact .start surroundings
  | append_singleton deeds d ih =>
    rw [after_concat, lately_concat]
    exact ih.step d

end Session.Tracks

/-! ### Switching -/

namespace Act
variable {s s' : Session} {p : Presentation} {format : OutputFormat} {noColor quiet verbose : Bool}

/-- The rendering after switching to several formats: that of the last one that is not open. -/
def lastRendering (first : Rendering) (formats : List OutputFormat) : Rendering :=
  (formats.reverse.findSome? OutputFormat.rendering?).getD first

theorem lastRendering_cons (first : Rendering) (format : OutputFormat)
    (formats : List OutputFormat) : lastRendering first (format :: formats)
      = lastRendering ((format.rendering?).getD first) formats := by
  rw [lastRendering, List.reverse_cons, List.findSome?_append, lastRendering]
  cases formats.reverse.findSome? OutputFormat.rendering? with
  | none => cases asked : format.rendering? <;> simp [asked]
  | some rendering => rfl

def applyAll (formats : List OutputFormat) : Act Unit :=
  formats.forM fun format => do
    let _ ← applyNamed format.name

theorem run_applyNamed_name (shown : current.run s = (.ok p, s'))
    (made : Presentation.make s'.surroundings format noColor quiet verbose = .ok p)
    (format' : OutputFormat) : (applyNamed format'.name).run s
      = (.ok (p.inFormat format'), s'.showing (p.inFormat format')) := by
  rw [run_applyNamed shown, OutputFormat.ofName?_eq_some_iff.mpr rfl]
  exact run_applyFormat_eq (run_current_ok shown).1 made format'

theorem run_applyAll (formats : List OutputFormat) (installed : s.presentation = some p)
    (made : Presentation.make s.surroundings format noColor quiet verbose = .ok p) :
    ∃ s', (applyAll formats).run s = (.ok (), s')
      ∧ s'.presentation = some { p with rendering := lastRendering p.rendering formats } := by
  induction formats generalizing s p format with
  | nil => exact ⟨s, rfl, installed⟩
  | cons next rest ih =>
    have first := run_applyNamed_name (run_current installed) made next
    -- The new presentation is made like the old one, for the next format or for the old one again.
    have again : ∃ format', Presentation.make (s.showing (p.inFormat next)).surroundings format'
        noColor quiet verbose = .ok (p.inFormat next) := by
      rw [Session.showing_surroundings]
      cases asked : next.rendering? with
      | none =>
        have same : p.inFormat next = p := by simp [Presentation.inFormat, asked]
        exact ⟨format, same.symm ▸ made⟩
      | some rendering => exact ⟨next, Presentation.make_inFormat made asked⟩
    obtain ⟨format', made'⟩ := again
    obtain ⟨s', others, shows⟩ := ih Session.showing_presentation made'
    refine ⟨s', ?_, ?_⟩
    · rw [applyAll, List.forM, run_bind_ok ((run_bind_ok first).trans rfl)]
      exact others
    · rw [lastRendering_cons]
      exact shows

end Act

/-! ### The state after a history -/

open Act

/-- A session that goes by its history. What is installed has the flags and the format that were
asked for last since the last reset. From an installed presentation switching by names of formats
always succeeds and changes nothing but the rendering, to that of the last format that is not open.
Switching to `auto`, or to the format in use, is the same as asking for the current presentation,
and a name that no format has is refused with the current presentation left in place. -/
structure Session.GoesBy (surroundings : Surroundings) (history : List Deed) (s : Session) :
    Prop where
  format : ∀ p, s.presentation = some p → p.rendering.format ≠ .auto
    ∧ p.rendering = Presentation.settle surroundings.isTerminal p.noColor (lastFormat history)
  flags : ∀ p, s.presentation = some p → p.quiet = (lastFlags history).quiet
    ∧ p.verbose = (lastFlags history).verbose
    ∧ p.noColor = ((lastFlags history).noColor || surroundings.noColor)
  current : (∃ p, Act.current.run s = (.ok p, s.showing p))
    ∨ ∃ fault, surroundings.columns = .error fault ∧ s.presentation = none
      ∧ ∀ name, (applyNamed name).run s = (.error (.mishap (.number fault)), s)
  installed : ∀ (format : OutputFormat) (flags : Flags) (p : Presentation) (s' : Session),
    (Act.present format flags.noColor flags.quiet flags.verbose).run s = (.ok p, s') →
    ∀ formats, ∃ s'', (applyAll formats).run s' = (.ok (), s'')
      ∧ s''.presentation = some { p with rendering := lastRendering p.rendering formats }
  switched : ∀ p s', Act.current.run s = (.ok p, s') → ∀ format : OutputFormat,
    (applyNamed format.name).run s = (.ok (p.inFormat format), s'.showing (p.inFormat format))
  kept : (applyNamed "auto").run s = Act.current.run s ∧ ∀ p s', Act.current.run s = (.ok p, s') →
    (applyNamed p.rendering.format.name).run s = (.ok p, s')
  refused : ∀ name, OutputFormat.ofName? name = none → ∀ p s', Act.current.run s = (.ok p, s') →
    (applyNamed name).run s = (.error (.mishap (.unknownFormat name)), s')
      ∧ s'.presentation = some p ∧ Act.current.run s' = (.ok p, s')

namespace Session.Tracks
variable {surroundings : Surroundings} {history : List Deed} {s s' : Session} {p : Presentation}

theorem current_ok (tracks : s.Tracks surroundings history)
    (shown : Act.current.run s = (.ok p, s')) :
    s'.Tracks surroundings history ∧ s'.presentation = some p := by
  obtain ⟨installed, same⟩ := run_current_ok shown
  refine ⟨?_, installed⟩
  rcases tracks.current with ⟨q, shown', after⟩ | ⟨fault, -, -, failed⟩
  · cases shown.symm.trans shown'
    exact after
  · cases shown.symm.trans failed

theorem applyNamed_name (tracks : s.Tracks surroundings history)
    (shown : Act.current.run s = (.ok p, s')) (format : OutputFormat) :
    (applyNamed format.name).run s
      = (.ok (p.inFormat format), s'.showing (p.inFormat format)) := by
  obtain ⟨after, installed⟩ := tracks.current_ok shown
  exact run_applyNamed_name shown (after.place ▸ after.made p installed) format

/-- To ask for no other rendering than the current one is to ask for the current presentation. -/
theorem applyNamed_same (tracks : s.Tracks surroundings history)
    (shown : Act.current.run s = (.ok p, s')) {format : OutputFormat}
    (same : p.inFormat format = p) : (applyNamed format.name).run s = (.ok p, s') := by
  rw [tracks.applyNamed_name shown, same, showing_of_installed (tracks.current_ok shown).2]

theorem goesBy (tracks : s.Tracks surroundings history) : s.GoesBy surroundings history where
  format := fun p installed =>
    ⟨p.rendering.format_ne_auto, (Presentation.make_fields (tracks.made p installed)).2.2.2⟩
  flags := by
    intro p installed
    obtain ⟨quiet, verbose, noColor, -⟩ := Presentation.make_fields (tracks.made p installed)
    exact ⟨quiet, verbose, noColor⟩
  current := by
    rcases tracks.current with ⟨p, shown, -⟩ | ⟨fault, faulty, absent, failed⟩
    · exact .inl ⟨p, shown⟩
    · exact .inr ⟨fault, faulty, absent, run_applyNamed_error failed⟩
  installed := by
    intro format flags p s' ran formats
    cases made : flags.presentation s.surroundings format with
    | ok q =>
      cases (run_present made).symm.trans ran
      exact run_applyAll formats rfl made
    | error fault => cases (run_present_error made).symm.trans ran
  switched := fun p s' shown format => tracks.applyNamed_name shown format
  kept := by
    constructor
    · rcases tracks.current with ⟨p, shown, -⟩ | ⟨fault, -, -, failed⟩
      · rw [shown]
        exact tracks.applyNamed_same shown p.inFormat_auto
      · rw [failed]
        exact run_applyNamed_error failed _
    · intro p s' shown
      exact tracks.applyNamed_same shown p.inFormat_own
  refused := by
    intro name unknown p s' shown
    obtain ⟨-, installed⟩ := tracks.current_ok shown
    refine ⟨?_, installed, run_current installed⟩
    rw [run_applyNamed shown, unknown]

end Session.Tracks

/-- Whatever is done in a session, one deed after the other, it goes by the deeds since the last
reset. -/
theorem Session.after_goesBy (surroundings : Surroundings) (deeds : List Deed) :
    ((Session.start surroundings).after deeds).GoesBy surroundings (lately deeds) :=
  (Tracks.after surroundings deeds).goesBy

/-- A session on a plain screen in which a quiet presentation of records is installed after a reset,
and the format is switched three times, once to a name that no format has. -/
def switchedDeeds : List Deed := [
  .present .rich ⟨true, false, true⟩, .say (.data "a"), .reset, .say (.data "b"),
  .present .json ⟨false, true, false⟩, .switch "plain", .switch "xml", .say (.data "c"),
  .switch "auto"]

theorem switched_goesBy :
    ((Session.start ⟨false, []⟩).after switchedDeeds).presentation
        = some ⟨.plain, false, true, false, ⟨80, some .sixteen, true⟩⟩
      ∧ lastFlags (lately switchedDeeds) = ⟨false, true, false⟩
      ∧ lastFormat (lately switchedDeeds) = .plain
      ∧ ((Session.start ⟨false, []⟩).after switchedDeeds).GoesBy ⟨false, []⟩
        (lately switchedDeeds) := by
  refine ⟨?_, rfl, ?_, Session.after_goesBy ⟨false, []⟩ switchedDeeds⟩
  · decide +kernel
  · decide +kernel

end ExposureLint
