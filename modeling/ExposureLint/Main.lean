import ExposureLint.Cli.Snapshot
import Std.Time.Format

/-!
The program. It looks at the world, runs the command line on what it has seen, and then writes what
the run has said and made.
-/
namespace ExposureLint.Program

def readEnvironment : IO Environment :=
  Environment.names.filterMapM fun name => do
    return (← IO.getEnv name).map fun value => (Text.ofString name, Text.ofString value)

def readStamp : IO Text := do
  let now ← Std.Time.PlainDateTime.now
  let digits (width : Nat) (n : Int) : Text := Text.padZero width (Text.ofInt n)
  return digits 4 now.date.year ++ digits 2 now.date.month.val ++ digits 2 now.date.day.val
    ++ "-" ++ digits 2 now.time.hour.val ++ digits 2 now.time.minute.val
    ++ digits 2 now.time.second.val

def nameOf (place : Place) : String := (Path.mk "/" place).text.toDisplay

def readEntry (place : Place) : IO (Option Entry) := do
  try
    return some (.file (← IO.FS.readBinFile (nameOf place)).toList)
  catch fault =>
    match fault with
    | .noFileOrDirectory .. | .invalidArgument .. => return none
    | .inappropriateType _ code _ =>
      return if code == directoryCode then some .directory else none
    | _ => throw fault
where
  /-- The number of the fault that a directory is not a file. -/
  directoryCode : UInt32 := 21

def readDisk (here : Place) (places : List Place) : IO Disk := do
  let entries ← places.filterMapM fun place => do
    return (← readEntry place).map fun entry => (place, entry)
  return ⟨here, entries⟩

def writeEntry (place : Place) : Entry → IO Unit
  | .directory => IO.FS.createDirAll (nameOf place)
  | .file content => IO.FS.writeBinFile (nameOf place) ⟨content.toArray⟩

def put (stream : IO.FS.Stream) (t : Text) : IO Unit := do
  stream.write ⟨(Utf8.encode t).toArray⟩
  stream.flush

def start (args : List String) : IO UInt32 := do
  let args := args.map Text.ofString
  let env ← readEnvironment
  let here := (Path.ofText (Text.ofString (← IO.currentDir).toString)).parts
  let stamp ← readStamp
  let disk ← readDisk here (Cli.stops here env stamp args)
  let out ← IO.getStdout
  let errors ← IO.getStderr
  let outcome := Cli.run disk ⟨← out.isTty, env⟩ stamp args
  (disk.newSince outcome.disk).forM fun (place, entry) => writeEntry place entry
  put out outcome.streams.data
  put errors outcome.streams.remarks
  if let .error mishap := outcome.code then
    put errors (Utf8.escaped mishap.message ++ [CodePoint.ofChar '\n'])
  return UInt32.ofNat (outcome.status % 256).toNat

end ExposureLint.Program

def main (args : List String) : IO UInt32 := ExposureLint.Program.start args
