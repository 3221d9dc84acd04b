import ExposureLint.Project.Failure
import ExposureLint.Settings

/-!
Where logs of crashes are kept. The directory for data is told by variables, and made when needed. A
log that cannot be written is a fault of its own.
-/
namespace ExposureLint

/-- Systems with agreed places for the data of programs. -/
def hasDataHome (system : Text) : Bool :=
  system == Text.ofString "Linux" || system.endsWith "BSD"

namespace Environment

variable [Host]

/-- The home directory, that of the account where no variable tells one; without slashes at its end,
and the root if nothing is left. What begins with a tilde tells no directory. -/
def home (env : Environment) : Except FileFault Path :=
  let written := Text.dropEndWhile Path.isSlash ((env.get? "HOME").getD Host.accountHome)
  if Text.startsWith written "~" then .error .homeless
  else .ok (Path.ofText (if written.isEmpty then "/" else written))

def dataDirectoryName : Text := "dispatchlint"

def dataDirectory (system : Text) (env : Environment) : Except FileFault Path :=
  if hasDataHome system then
    match env.filled? "XDG_DATA_HOME" with
    | some base => .ok ((Path.ofText base).child dataDirectoryName)
    | none => env.home.map fun home => ((home.child ".local").child "share").child dataDirectoryName
  else env.home.map fun home => home.child ("." ++ dataDirectoryName)

end Environment

namespace Disk

variable [Host]

def ensureDataDirectory (system : Text) (env : Environment) (d : Disk) :
    Disk × Except FileFault Path :=
  match env.dataDirectory system with
  | .error fault => (d, .error fault)
  | .ok directory =>
    let (d, made) := d.ensure directory
    (d, made.map fun _ => directory)

/-- Makes the directory for logs below the one for data, unless it is there. -/
def ensureLogs (env : Environment) (d : Disk) : Disk × Except FileFault Path :=
  match d.ensureDataDirectory "Linux" env with
  | (d, .error fault) => (d, .error fault)
  | (d, .ok directory) =>
    let logs := directory.child "logs"
    let (d, made) := d.ensure logs
    (d, made.map fun _ => logs)

def crashLogName (stamp : Text) : Text := "crash-" ++ stamp ++ ".log"

def writeCrashLog (env : Environment) (stamp : Text) (m : Mishap) (d : Disk) :
    Disk × Except FileFault Path :=
  match d.ensureLogs env with
  | (d, .error fault) => (d, .error fault)
  | (d, .ok logs) =>
    let file := logs.child (crashLogName stamp)
    let (d, written) := d.writeText file (Host.traceback m.message)
    (d, written.map fun _ => file)

end Disk
end ExposureLint
