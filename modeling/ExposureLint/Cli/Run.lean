import ExposureLint.Cli.CrashLog
import ExposureLint.Cli.Usage
import ExposureLint.Console.Report
import ExposureLint.Console.Session

/-!
Running a command line. A foreseen error ends a command with its message and its exit code; what is
not foreseen is written to a log, and ends the program with one exit code for all.
-/
namespace ExposureLint

namespace Cli

variable [Host]

def unsafeCode : Int := 10

def crashCode : Int := 1

def interruptCode : Int := 130

/-- How an act ends that is not over yet: with an exit code, or in failure. -/
inductive Interruption
  | failure (f : Failure)
  | interrupt
  | exit (code : Int)

def attempt {α : Type} (a : Act α) : Act (Except Failure α) :=
  monadLift (ExceptT.run a : StateM Session (Except Failure α))

/-- Goes on with what an act yields; a foreseen error is told, and gives the exit code. -/
def orTell {α : Type} (a : Act α) (next : α → Act Int) : Act Int := do
  match ← attempt a with
  | .ok x => next x
  | .error (.lint e) =>
    Act.remark .error e.message
    return e.exitCode
  | .error f => throw f

/-- The settings for a command, whose format is put to use. Their record takes room for itself only,
and there always is so much. -/
def settled (settings : Settings) : Act Unit := do
  let _ ← Act.applyFormat settings.format
  let shown ← Act.ofExcept ((settings.toRecord.displayWithin 1).mapError fun fault =>
    .mishap (.ofText fault))
  Act.remark .debug ("Resolved config: " ++ shown)

def check (disk : Disk) (settings : Settings) : Act Int :=
  orTell (Act.take (Report.ofProject disk settings.root settings.allowMissing)) fun report => do
    let p ← Act.current
    Act.sayAll (report.emissions p.rendering settings.strict)
    return if report.isBlocking settings.strict then unsafeCode else 0

def routes (disk : Disk) (settings : Settings) : Act Int :=
  orTell (Act.take (Spec.load disk settings.root)) fun document => do
    let ops ← Act.ofExcept (Spec.normalize document)
    if ops.isEmpty then Act.remark .info "No operations defined in this spec."
    else Act.say (.table (Operation.table ops))
    return 0

def perform (disk : Disk) (format : OutputFormat) (command : Command) (choices : CommandChoices) :
    Act Int := do
  let env := (← get).surroundings.environment
  orTell (Act.ofExcept (Settings.resolve disk env (choices.choices format))) fun settings => do
    settled settings
    match command with
    | .check => check disk settings
    | .routes => routes disk settings

/-- Answers a command line that leads to no command. All answers but the version need a screen. -/
def refuse (command : Option Command) : Refusal → Act Int
  | .asked .version => do
    Act.write ⟨Usage.versionText, []⟩
    return 0
  | .asked .help => do
    let _ ← screenColumns
    Act.write ⟨Usage.help command, []⟩
    return 0
  | .noArguments => do
    let _ ← screenColumns
    Act.write ⟨Usage.help command, []⟩
    return ErrorKind.exitCode .usage
  | .misuse m => do
    Act.write (.ofRemarks (Usage.misuse (← screenColumns) command m))
    return ErrorKind.exitCode .usage
where
  screenColumns : Act Nat := do Act.ofNumber (← get).surroundings.columns

def runCommand (disk : Disk) (root : RootChoices) (command : Command) (args : List Text) :
    Act Int :=
  orTell (Act.ofExcept (root.format.mapError .lint)) fun format => do
    let _ ← Act.present format root.noColor root.quiet root.verbose
    Act.configureLog
    match CommandChoices.read command args with
    | .ok choices => perform disk format command choices
    | .error refusal => refuse (some command) refusal

def runArguments (disk : Disk) (args : List Text) : Act Int :=
  match RootChoices.read args with
  | .ok (root, command, args) => runCommand disk root command args
  | .error refusal => refuse none refusal

/-- What is left when the program is over: its exit code, or what even its last words failed of. -/
structure Outcome where
  code : Except Mishap Int
  streams : Streams
  disk : Disk

/-- What the system is told in the end. All that is raised beyond the last words comes to one code.
-/
def Outcome.status (o : Outcome) : Int :=
  match o.code with
  | .ok code => code
  | .error _ => crashCode

def cancelled : Text := "\nCancelled.\n"

def leave (disk : Disk) (message : Text) (code : Int) (s : Session) : Outcome :=
  let (last, s) := (Act.remark .error message).run s
  match last with
  | .error (.mishap m) => ⟨.error m, s.streams, disk⟩
  | _ => ⟨.ok code, s.streams, disk⟩

def conclude (disk : Disk) (stamp : Text) (interruption : Interruption) (s : Session) : Outcome :=
  match interruption with
  | .exit code => ⟨.ok code, s.streams, disk⟩
  | .interrupt => ⟨.ok interruptCode, s.streams ++ ⟨[], cancelled⟩, disk⟩
  | .failure (.lint e) => leave disk e.message e.exitCode s
  | .failure (.mishap m) =>
    match disk.writeCrashLog s.surroundings.environment stamp m with
    | (disk, .error fault) => ⟨.error (.file fault), s.streams, disk⟩
    | (disk, .ok file) => leave disk ("Unexpected error. Debug log: " ++ file.text) crashCode s

def run (disk : Disk) (surroundings : Surroundings) (stamp : Text) (args : List Text) : Outcome :=
  match (runArguments disk args).run (.start surroundings) with
  | (.ok code, s) => conclude disk stamp (.exit code) s
  | (.error f, s) => conclude disk stamp (.failure f) s

end Cli
end ExposureLint
