import Mathlib
import ExposureLint.Console.Session
import ExposureLint.Proofs.Outcome

/-!
How a session runs. An act is run step by step; what it says is put on the streams piece by piece,
and only a piece for the data stream can fail, where its text has no form in bytes.
-/
namespace ExposureLint

namespace Session

def wrote (added : Streams) (s : Session) : Session := { s with streams := s.streams ++ added }

variable {added more : Streams} {s : Session}

@[simp] theorem wrote_streams : (s.wrote added).streams = s.streams ++ added := rfl

end Session

namespace Streams

@[simp] theorem append_data (a b : Streams) : (a ++ b).data = a.data ++ b.data := rfl
@[simp] theorem append_remarks (a b : Streams) : (a ++ b).remarks = a.remarks ++ b.remarks := rfl

theorem ext_iff' {a b : Streams} : a = b ↔ a.data = b.data ∧ a.remarks = b.remarks := by
  cases a
  cases b
  simp

@[simp] theorem append_empty (a : Streams) : a ++ empty = a := by
  simp [ext_iff', empty]

@[simp] theorem empty_append (a : Streams) : empty ++ a = a := by
  simp [ext_iff', empty]

theorem append_assoc (a b c : Streams) : a ++ b ++ c = a ++ (b ++ c) := by
  simp [ext_iff']

end Streams

theorem Session.wrote_inj {a b : Streams} {s : Session} (same : s.wrote a = s.wrote b) : a = b := by
  have streams : s.streams ++ a = s.streams ++ b := congrArg Session.streams same
  rw [Streams.ext_iff'] at streams ⊢
  simpa using streams

theorem Session.wrote_wrote (a b : Streams) (s : Session) :
    (s.wrote a).wrote b = s.wrote (a ++ b) := by
  simp [wrote, Streams.append_assoc]

@[simp] theorem Session.wrote_empty (s : Session) : s.wrote .empty = s := by
  simp [wrote]

/-- A later state of a session, in the same surroundings and with the same presentation. -/
structure Session.Continues (s s' : Session) : Prop where
  presentation : s'.presentation = s.presentation
  surroundings : s'.surroundings = s.surroundings

namespace Session.Continues
variable {s s' s'' : Session}

theorem refl (s : Session) : s.Continues s := ⟨rfl, rfl⟩

theorem trans (first : s.Continues s') (next : s'.Continues s'') : s.Continues s'' :=
  ⟨next.presentation.trans first.presentation, next.surroundings.trans first.surroundings⟩

theorem wrote (s : Session) (added : Streams) : s.Continues (s.wrote added) := ⟨rfl, rfl⟩

end Session.Continues

namespace Act
variable {α β : Type} {s s' : Session} {p : Presentation}

@[simp] theorem run_ofExcept (r : Except Failure α) : (ofExcept r).run s = (r, s) := by
  cases r <;> rfl

@[simp] theorem run_get : (get : Act Session).run s = (.ok s, s) := rfl

theorem run_bind (a : Act α) (f : α → Act β) : (a >>= f).run s =
    match a.run s with
    | (.ok x, s') => (f x).run s'
    | (.error e, s') => (.error e, s') := by
  simp only [run, ExceptT.run_bind, StateT.run_bind, Id.run_bind]
  rcases Id.run (StateT.run (ExceptT.run a) s) with ⟨r, s'⟩
  cases r <;> rfl

theorem run_bind_ok {a : Act α} {f : α → Act β} {x : α} (ran : a.run s = (.ok x, s')) :
    (a >>= f).run s = (f x).run s' := by
  rw [run_bind, ran]

theorem run_bind_error {a : Act α} {f : α → Act β} {e : Failure} (ran : a.run s = (.error e, s')) :
    (a >>= f).run s = (.error e, s') := by
  rw [run_bind, ran]

theorem run_current (installed : s.presentation = some p) : current.run s = (.ok p, s) := by
  rw [current, run_bind, run_get]
  simp only [installed]
  rfl

end Act

namespace Piece

/-- Only a text for the data stream may have no form in bytes. -/
def isWritable : Piece → Bool
  | .line t | .drawing t => (Utf8.unwritable? t).isNone
  | .remark _ => true

def streams : Piece → Streams
  | .line t => ⟨t ++ [CodePoint.ofChar '\n'], []⟩
  | .drawing t => ⟨t, []⟩
  | .remark t => .ofRemarks t

end Piece

def Streams.all (parts : List Streams) : Streams := parts.foldr (· ++ ·) .empty

theorem Streams.all_append (parts more : List Streams) :
    all (parts ++ more) = all parts ++ all more := by
  induction parts with
  | nil => simp [all]
  | cons part rest ih =>
    rw [List.cons_append, all, List.foldr_cons, ← all, ih, ← append_assoc]
    rfl

namespace Presentation

/-- What an emission puts on the streams, if it can be told. -/
def streamsOf (p : Presentation) (e : Emission) : Streams :=
  .all (((p.pieces e).toOption.getD []).map Piece.streams)

/-- Whether an emission can be told: it has pieces, and each of them can be written. -/
def CanTell (p : Presentation) (e : Emission) : Prop :=
  ∃ pieces, p.pieces e = .ok pieces ∧ ∀ piece ∈ pieces, piece.isWritable = true

variable {p : Presentation}

theorem canTell_remark (kind : Remark) (message : Text) : p.CanTell (.remark kind message) :=
  ⟨_, rfl, by simp [Piece.isWritable]⟩

theorem streamsOf_remark (kind : Remark) (message : Text) :
    p.streamsOf (.remark kind message) = .ofRemarks (kind.text p message) :=
  Streams.append_empty _

/-- What has no pieces has none for a reason that is not foreseen. -/
theorem pieces_error {e : Emission} {f : Failure} (failed : p.pieces e = .error f) :
    ∃ m, f = .mishap m := by
  have line (v : Value) : FailsOnly (fun f => ∃ m, f = .mishap m) (valueLine v) :=
    (Yields.any _).mapError fun fault _ => ⟨_, rfl⟩
  have yields : FailsOnly (fun f => ∃ m, f = .mishap m) (p.pieces e) := by
    cases e with
    | data t => exact .ok trivial
    | value v => exact (line v).bind fun _ _ => .ok trivial
    | remark kind message => exact .ok trivial
    | table t =>
      simp only [pieces, tablePieces]
      split
      · exact (line _).bind fun _ _ => .ok trivial
      · exact .ok trivial
      · split
        · exact .ok trivial
        · exact .error ⟨_, rfl⟩
  exact yields.of_error failed

end Presentation

namespace Act
variable {s : Session} {p : Presentation}

theorem run_put {piece : Piece} (writable : piece.isWritable = true) :
    (put piece).run s = (.ok (), s.wrote piece.streams) := by
  cases piece with
  | remark t => rfl
  | line t =>
    rw [put, Option.isNone_iff_eq_none.mp writable]
    rfl
  | drawing t =>
    rw [put, Option.isNone_iff_eq_none.mp writable]
    rfl

theorem run_put_error {piece : Piece} (unwritable : piece.isWritable = false) :
    ∃ m s', (put piece).run s = (.error (.mishap m), s') ∧ s.Continues s'
      ∧ s'.streams = s.streams := by
  cases piece with
  | remark t => cases unwritable
  | line t =>
    obtain ⟨fault, found⟩ := Option.isSome_iff_exists.mp
      (by simpa [Piece.isWritable] using unwritable)
    exact ⟨_, s, by rw [put, found]; rfl, .refl s, rfl⟩
  | drawing t =>
    obtain ⟨fault, found⟩ := Option.isSome_iff_exists.mp
      (by simpa [Piece.isWritable] using unwritable)
    refine ⟨.undrawable fault, { s with blocked := some fault }, ?_, ⟨rfl, rfl⟩, rfl⟩
    rw [put, found]
    rfl

theorem run_putAll {pieces : List Piece} (writable : ∀ piece ∈ pieces, piece.isWritable = true) :
    (pieces.forM put).run s = (.ok (), s.wrote (.all (pieces.map Piece.streams))) := by
  induction pieces generalizing s with
  | nil => exact congrArg _ (s.wrote_empty).symm
  | cons piece rest ih =>
    rw [List.forM, run_bind_ok (run_put (writable piece List.mem_cons_self)),
      ih fun other there => writable other (List.mem_cons_of_mem piece there), Session.wrote_wrote]
    rfl

theorem run_putAll_error {pieces : List Piece}
    (unwritable : ¬ ∀ piece ∈ pieces, piece.isWritable = true) :
    ∃ m s', (pieces.forM put).run s = (.error (.mishap m), s') ∧ s.Continues s' := by
  induction pieces generalizing s with
  | nil => exact absurd (fun _ none => absurd none List.not_mem_nil) unwritable
  | cons piece rest ih =>
    cases written : piece.isWritable with
    | false =>
      obtain ⟨m, s', failed, same, -⟩ := run_put_error (s := s) written
      exact ⟨m, s', run_bind_error failed, same⟩
    | true =>
      obtain ⟨m, s', failed, same⟩ := ih (s := s.wrote piece.streams) fun all =>
        unwritable (List.forall_mem_cons.mpr ⟨written, all⟩)
      exact ⟨m, s', by rw [List.forM, run_bind_ok (run_put written), failed],
        (Session.Continues.wrote s _).trans same⟩

section
variable (installed : s.presentation = some p)
include installed

theorem run_remark (kind : Remark) (message : Text) :
    (remark kind message).run s = (.ok (), s.wrote (.ofRemarks (kind.text p message))) := by
  rw [remark, say, run_bind_ok (run_current installed), run_bind_ok run_get]
  rfl

/-- A drawing that could not be written is in the way of drawings only. -/
theorem run_say (free : p.rendering = .rich → s.blocked = none) (e : Emission) :
    (say e).run s = (ofExcept (p.pieces e) >>= fun pieces => pieces.forM put).run s := by
  rw [say, run_bind_ok (run_current installed), run_bind_ok run_get]
  cases rendering : p.rendering with
  | rich =>
    rw [free rendering]
    cases e <;> rfl
  | json | plain => cases e <;> rfl

theorem run_say_of_canTell (free : p.rendering = .rich → s.blocked = none) {e : Emission}
    (able : p.CanTell e) :
    (say e).run s = (.ok (), s.wrote (p.streamsOf e)) := by
  obtain ⟨pieces, made, writable⟩ := able
  rw [run_say installed free, made, run_bind_ok (run_ofExcept _), run_putAll writable,
    Presentation.streamsOf, made]
  rfl

theorem run_say_error (free : p.rendering = .rich → s.blocked = none) {e : Emission}
    (unable : ¬ p.CanTell e) :
    ∃ m s', (say e).run s = (.error (.mishap m), s') ∧ s.Continues s' := by
  rw [run_say installed free]
  cases made : p.pieces e with
  | error f =>
    obtain ⟨m, rfl⟩ := Presentation.pieces_error made
    exact ⟨m, s, rfl, .refl s⟩
  | ok pieces =>
    obtain ⟨m, s', failed, same⟩ := run_putAll_error (s := s) fun writable =>
      unable ⟨pieces, made, writable⟩
    exact ⟨m, s', by rw [run_bind_ok (run_ofExcept _), failed], same⟩

theorem run_sayAll (free : p.rendering = .rich → s.blocked = none) {es : List Emission}
    (able : ∀ e ∈ es, p.CanTell e) :
    (sayAll es).run s = (.ok (), s.wrote (.all (es.map p.streamsOf))) := by
  induction es generalizing s with
  | nil => exact congrArg _ (s.wrote_empty).symm
  | cons e rest ih =>
    have first := run_say_of_canTell installed free (able e List.mem_cons_self)
    have others := ih (s := s.wrote (p.streamsOf e)) installed free fun other there =>
      able other (List.mem_cons_of_mem e there)
    rw [sayAll, List.forM, run_bind_ok first]
    rw [sayAll] at others
    rw [others, Session.wrote_wrote]
    rfl

theorem run_sayAll_error (free : p.rendering = .rich → s.blocked = none) {es : List Emission}
    (unable : ¬ ∀ e ∈ es, p.CanTell e) :
    ∃ m s', (sayAll es).run s = (.error (.mishap m), s') ∧ s.Continues s' := by
  -- the session goes on after every emission that can be told, up to the first that cannot
  induction es generalizing s with
  | nil => exact absurd (fun _ none => absurd none List.not_mem_nil) unable
  | cons e rest ih =>
    by_cases first : p.CanTell e
    · obtain ⟨m, s', failed, same⟩ := ih (s := s.wrote (p.streamsOf e)) installed free
        fun all => unable (List.forall_mem_cons.mpr ⟨first, all⟩)
      refine ⟨m, s', ?_, (Session.Continues.wrote s _).trans same⟩
      rw [sayAll, List.forM, run_bind_ok (run_say_of_canTell installed free first)]
      exact failed
    · obtain ⟨m, s', failed, same⟩ := run_say_error installed free first
      exact ⟨m, s', by rw [sayAll, List.forM, run_bind_error failed], same⟩

end

theorem run_noteAll (notes : List Note) :
    ∃ t, (notes.forM note).run s = (.ok (), s.wrote ⟨[], t⟩) := by
  induction notes generalizing s with
  | nil => exact ⟨[], congrArg _ (s.wrote_empty).symm⟩
  | cons n rest ih =>
    have first : (note n).run s = (.ok (), s.wrote (.ofRemarks (s.log.noteText n))) := rfl
    obtain ⟨t, others⟩ := ih (s := s.wrote (.ofRemarks (s.log.noteText n)))
    exact ⟨_, by rw [List.forM, run_bind_ok first, others, Session.wrote_wrote]; rfl⟩

/-- A step of the pipeline gives what it comes to, and puts nothing on the data stream. -/
theorem run_take {α : Type} (step : Step α) :
    ∃ t, (take step).run s = (step.outcome.1, s.wrote ⟨[], t⟩) := by
  obtain ⟨t, noted⟩ := run_noteAll (s := s) step.outcome.2
  exact ⟨t, by rw [take, run_bind_ok noted, run_ofExcept]⟩

end Act
end ExposureLint
