import ExposureLint.Console.Log

/-!
A session on a console: the presentation that is installed, the log, and what is on the streams so
far. A presentation is made when one is needed and none is installed.
-/
namespace ExposureLint

/-- A drawing that could not be written, for which `blocked` is the reason, stays in front of all
later ones of its presentation, and so none of them can be written. -/
structure Session where
  surroundings : Surroundings
  presentation : Option Presentation
  blocked : Option Utf8.Unwritable
  log : Log
  streams : Streams

/-- Something done in a session. What it has put on the streams stays there when it fails. -/
abbrev Act (α : Type) := ExceptT Failure (StateM Session) α

namespace Session

def start (s : Surroundings) : Session := ⟨s, none, none, .initial, .empty⟩

end Session

namespace Act

def ofExcept {α : Type} (r : Except Failure α) : Act α :=
  match r with
  | .ok x => return x
  | .error e => throw e

def run {α : Type} (a : Act α) (s : Session) : Except Failure α × Session :=
  Id.run (StateT.run (ExceptT.run a) s)

def install (p : Presentation) : Act Unit :=
  modify fun s => { s with presentation := some p, blocked := none }

/-- Takes the presentation away, so that the next one starts afresh. -/
def reset : Act Unit := modify fun s => { s with presentation := none, blocked := none }

def ofNumber {α : Type} (r : Except Numeral.Fault α) : Act α :=
  ofExcept (r.mapError fun fault => .mishap (.number fault))

/-- The presentation that is installed, after installing one if there is none. -/
def current : Act Presentation := do
  let s ← get
  match s.presentation with
  | some p => return p
  | none =>
    let p ← ofNumber (Presentation.standard s.surroundings)
    install p
    return p

def present (format : OutputFormat) (noColor quiet verbose : Bool) : Act Presentation := do
  let p ← ofNumber (Presentation.make (← get).surroundings format noColor quiet verbose)
  install p
  return p

/-- Switches to a format, and keeps the flags. A format that is in use already, or that leaves the
rendering open, changes nothing. -/
def applyFormat (format : OutputFormat) : Act Presentation := do
  let p ← current
  match format.rendering? with
  | none => return p
  | some rendering =>
    if rendering == p.rendering then return p
    else present format p.noColor p.quiet p.verbose

def formatNamed (name : Text) : Act OutputFormat :=
  match OutputFormat.ofName? name with
  | some format => return format
  | none => throw (.mishap (.unknownFormat name))

/-- Switches to the format with a name. A presentation is made first where there is none, also for a
name that no format has. -/
def applyNamed (name : Text) : Act Presentation := do
  let _ ← current
  applyFormat (← formatNamed name)

def write (streams : Streams) : Act Unit :=
  modify fun s => { s with streams := s.streams ++ streams }

/-- Writes one piece. On the data stream only text that has a form in bytes can be written. -/
def put : Piece → Act Unit
  | .line t =>
    match Utf8.unwritable? t with
    | some fault => throw (.mishap (.unwritable fault))
    | none => write ⟨t ++ [CodePoint.ofChar '\n'], []⟩
  | .drawing t =>
    match Utf8.unwritable? t with
    | some fault => do
      modify fun s => { s with blocked := some fault }
      throw (.mishap (.undrawable fault))
    | none => write ⟨t, []⟩
  | .remark t => write (.ofRemarks t)

def say (e : Emission) : Act Unit := do
  let p ← current
  match e, p.rendering, (← get).blocked with
  | .table _, .rich, some fault => throw (.mishap (.undrawable fault))
  | _, _, _ => (← ofExcept (p.pieces e)).forM put

def sayAll (es : List Emission) : Act Unit := es.forM say

def remark (kind : Remark) (message : Text) : Act Unit := say (.remark kind message)

def configureLog : Act Unit := do
  let p ← current
  modify fun s => { s with log := s.log.configure p }

def note (n : Note) : Act Unit := do
  write (.ofRemarks ((← get).log.noteText n))

/-- Takes a step of the pipeline; its notes go to the log. -/
def take {α : Type} (step : Step α) : Act α := do
  let (result, notes) := step.outcome
  notes.forM note
  ofExcept result

end Act
end ExposureLint
