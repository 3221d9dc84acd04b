import Mathlib
import ExposureLint.Console.Log

/-!
The handlers of the log. To configure it takes away the handlers of the program itself, and leaves
those from elsewhere in their order. So however often it is configured, only the last time shows,
and it never has more than one handler of the program itself.
-/
namespace ExposureLint

namespace Log

/-- Where the first handlers are dealt with, those from elsewhere are left of them, and all of the
others. -/
theorem foldl_takeAway (dealt rest : List Handler) :
    rest.foldl takeAway ((dealt.filter fun h => !h.isOwn) ++ rest)
      = (dealt ++ rest).filter fun h => !h.isOwn := by
  induction rest generalizing dealt with
  | nil => simp
  | cons h rest ih =>
    have split : dealt ++ h :: rest = dealt ++ [h] ++ rest := List.append_cons ..
    rw [split, ← ih, List.foldl_cons, takeAway, List.filter_append]
    cases own : h.isOwn with
    | true =>
      -- it is not among those that are left of the first, so this is the one that goes
      have absent : h ∉ dealt.filter fun h => !h.isOwn := by simp [own]
      simp [own, List.erase_append_right _ absent]
    | false => simp [own]

theorem withoutOwn_eq (handlers : List Handler) :
    withoutOwn handlers = handlers.filter fun h => !h.isOwn :=
  foldl_takeAway [] handlers

/-- They go from every position, also where two are the same. -/
example : withoutOwn [.own 80, .foreign 1, .own 80, .foreign 2] = [.foreign 1, .foreign 2] := by
  decide

def others (log : Log) : List Handler := log.handlers.filter fun h => !h.isOwn

def wanted (p : Presentation) : List Handler :=
  if p.verbose then [.own p.screen.columns] else []

theorem configure_eq (p : Presentation) (log : Log) : log.configure p
    = ⟨log.others ++ wanted p, if p.verbose then .debug else .warning⟩ := by
  rw [configure, withoutOwn_eq, others, wanted]
  cases p.verbose <;> simp

theorem others_configure (p : Presentation) (log : Log) :
    (log.configure p).others = log.others := by
  have none : (wanted p).filter (fun h => !h.isOwn) = [] := by
    rw [wanted]
    cases p.verbose <;> rfl
  rw [configure_eq, others, List.filter_append, none, others]
  simp

/-- Configuring depends on nothing but the handlers from elsewhere. -/
theorem configure_congr {log log' : Log} (same : log.others = log'.others) (p : Presentation) :
    log.configure p = log'.configure p := by
  rw [configure_eq, configure_eq, same]

def configureAll (log : Log) (ps : List Presentation) : Log :=
  ps.foldl (fun log p => log.configure p) log

theorem others_configureAll (log : Log) (ps : List Presentation) :
    (log.configureAll ps).others = log.others := by
  induction ps generalizing log with
  | nil => rfl
  | cons p rest ih => exact (ih (log.configure p)).trans (others_configure p log)

/-- However often a log is configured, it is as if only the last time had been. -/
theorem configureAll_concat (log : Log) (ps : List Presentation) (last : Presentation) :
    log.configureAll (ps ++ [last]) = log.configure last := by
  have split : log.configureAll (ps ++ [last]) = (log.configureAll ps).configure last :=
    List.foldl_concat ..
  exact split.trans (configure_congr (others_configureAll log ps) last)

/-- Whatever handlers a log has at first, and however often it is configured, it has those from
elsewhere in their order, then one of the program itself if the last presentation is verbose, and no
other. -/
theorem handlers_configureAll (log : Log) (ps : List Presentation) (last : Presentation) :
    (log.configureAll (ps ++ [last])).handlers = (log.handlers.filter fun h => !h.isOwn)
        ++ (if last.verbose then [.own last.screen.columns] else [])
      ∧ (log.configureAll (ps ++ [last])).level = if last.verbose then .debug else .warning := by
  rw [configureAll_concat, configure_eq]
  exact ⟨rfl, rfl⟩

end Log

end ExposureLint
