import Mathlib
import ExposureLint.Cli.CrashLog

/-!
What the log of a crash comes to. Three things may go wrong with it, one after the other: its
directory cannot be made, the file in it cannot be opened, and the text of the crash cannot be
encoded, which leaves an empty file.
-/
namespace ExposureLint.Disk

variable [Host] {env : Environment} {stamp : Text} {m : Mishap} {d : Disk}

/-- What the log of a crash comes to: a disk, and the file that was written or a fault. -/
inductive LogComesTo (env : Environment) (stamp : Text) (m : Mishap) (d : Disk) :
    Disk × Except FileFault Path → Prop
  | homeless {after : Disk} {fault : FileFault}
    (unmade : d.ensureLogs env = (after, .error fault)) :
    LogComesTo env stamp m d (after, .error fault)
  | closed {after : Disk} {logs : Path} {fault : FileFault}
    (made : d.ensureLogs env = (after, .ok logs))
    (shut : after.fileAt (logs.child (crashLogName stamp)) = .error fault) :
    LogComesTo env stamp m d (after, .error fault)
  | empty {after : Disk} {logs : Path} {place : Place} {fault : Utf8.Unwritable}
    (made : d.ensureLogs env = (after, .ok logs))
    (opens : after.fileAt (logs.child (crashLogName stamp)) = .ok place)
    (unclean : Utf8.unwritable? (Host.traceback m.message) = some fault) :
    LogComesTo env stamp m d (after.put place (.file []), .error (.unwritable fault))
  | written {after : Disk} {logs : Path} {place : Place}
    (made : d.ensureLogs env = (after, .ok logs))
    (opens : after.fileAt (logs.child (crashLogName stamp)) = .ok place)
    (clean : Utf8.unwritable? (Host.traceback m.message) = none) :
    LogComesTo env stamp m d (after.put place (.file (Utf8.encode (Host.traceback m.message))),
      .ok (logs.child (crashLogName stamp)))

theorem writeCrashLog_comesTo (env : Environment) (stamp : Text) (m : Mishap) (d : Disk) :
    LogComesTo env stamp m d (d.writeCrashLog env stamp m) := by
  unfold writeCrashLog
  split
  · rename_i unmade
    exact .homeless unmade
  · rename_i after logs made
    simp only [writeText]
    split
    · rename_i shut
      exact .closed made shut
    · rename_i place opens
      split
      · rename_i unclean
        exact .empty made opens unclean
      · rename_i clean
        exact .written made opens clean

theorem LogComesTo.eq {r : Disk × Except FileFault Path} (comes : LogComesTo env stamp m d r) :
    d.writeCrashLog env stamp m = r := by
  cases comes with
  | homeless unmade => simp [writeCrashLog, unmade]
  | closed made shut => simp [writeCrashLog, made, writeText, shut, Except.map]
  | empty made opens unclean =>
    simp [writeCrashLog, made, writeText, opens, unclean, Except.map]
  | written made opens clean => simp [writeCrashLog, made, writeText, opens, clean, Except.map]

theorem exists_logComesTo (env : Environment) (stamp : Text) (m : Mishap) (d : Disk) :
    ∃ after result, LogComesTo env stamp m d (after, result) :=
  ⟨_, _, writeCrashLog_comesTo env stamp m d⟩

theorem exists_logged {file : Path} (wrote : (d.writeCrashLog env stamp m).2 = .ok file) :
    ∃ after file, LogComesTo env stamp m d (after, .ok file) := by
  obtain ⟨after, result, comes⟩ := exists_logComesTo env stamp m d
  rw [comes.eq] at wrote
  cases wrote
  exact ⟨after, file, comes⟩

end ExposureLint.Disk
