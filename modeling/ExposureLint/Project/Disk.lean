import ExposureLint.Project.Path
import ExposureLint.Text.Quoted
import ExposureLint.Text.Utf8

/-!
A tree of files and directories, with a working directory. Every place has at most one entry, and
everything above an entry is a directory. There are no permissions and no limits on space: every
file can be read and written, every directory searched and added to.
-/
namespace ExposureLint

inductive Entry
  | file (content : List UInt8)
  | directory
deriving DecidableEq

/-- A place is told by the names from the root to it. -/
abbrev Place := List Text

structure Disk where
  here : Place
  entries : List (Place × Entry)

/-- What is found where a path leads: an entry, nothing, or a file on the way; or the path is too
long, or no name of anything. -/
inductive Status
  | found (place : Place) (entry : Entry)
  | missing
  | throughFile
  | tooLong
  | unnameable (why : Path.Unnameable)
deriving DecidableEq

/-- Why a file cannot be read or written, or a directory not be found or made. There may be no
working directory any more that a path starts from, and no home directory. -/
inductive FileFault
  | missing (path : Path)
  | isDirectory (path : Path)
  | notDirectory (path : Path)
  | exists (path : Path)
  | tooLong (path : Path)
  | nowhere
  | homeless
  | unnameable (why : Path.Unnameable)
  | encoding (fault : Utf8.Fault)
  | unwritable (fault : Utf8.Unwritable)
deriving DecidableEq

def FileFault.message : FileFault → Text
  | .missing path => "[Errno 2] No such file or directory: " ++ path.text.quoted
  | .isDirectory path => "[Errno 21] Is a directory: " ++ path.text.quoted
  | .notDirectory path => "[Errno 20] Not a directory: " ++ path.text.quoted
  | .exists path => "[Errno 17] File exists: " ++ path.text.quoted
  | .tooLong path => "[Errno 36] File name too long: " ++ path.text.quoted
  | .nowhere => "[Errno 2] No such file or directory"
  | .homeless => "Could not determine home directory."
  | .unnameable why => why.message
  | .encoding fault => fault.message
  | .unwritable fault => fault.message

def Entry.isFile : Entry → Bool
  | .file _ => true
  | .directory => false

def Entry.isDirectory (e : Entry) : Bool := !e.isFile

namespace Disk

/-- The entry at a place; the root is always a directory. -/
def entryAt (d : Disk) (place : Place) : Option Entry :=
  if place.isEmpty then some .directory else d.entries.lookup place

def follow (d : Disk) (place : Place) : List Text → Status
  | [] =>
    match d.entryAt place with
    | some e => .found place e
    | none => .missing
  | p :: rest =>
    match d.entryAt place with
    | some .directory =>
      if Path.partLimit < Path.sizeOf p then .tooLong
      else d.follow (if p == Path.dots then place.dropLast else place ++ [p]) rest
    | some (.file _) => .throughFile
    | none => .missing

def status (d : Disk) (p : Path) : Status :=
  match Path.unnameable? p.text with
  | some why => .unnameable why
  | none =>
    if Path.limit < Path.sizeOf p.text then .tooLong
    else d.follow (if p.root.isEmpty then d.here else []) p.parts

/-- Whether a path leads to an entry of some kind. Only of a path that is too long it cannot be
told. -/
def leadsTo (kind : Entry → Bool) (d : Disk) (p : Path) : Except FileFault Bool :=
  match d.status p with
  | .found _ e => .ok (kind e)
  | .tooLong => .error (.tooLong p)
  | _ => .ok false

def isFile (d : Disk) (p : Path) : Except FileFault Bool := d.leadsTo Entry.isFile p
def isDirectory (d : Disk) (p : Path) : Except FileFault Bool := d.leadsTo Entry.isDirectory p
def isThere (d : Disk) (p : Path) : Except FileFault Bool := d.leadsTo (fun _ => true) p

def resolve (d : Disk) (p : Path) : Except FileFault Path :=
  match p.unresolvable? with
  | some why => .error (.unnameable why)
  | none =>
    if p.root.isEmpty && d.entryAt d.here != some .directory then .error .nowhere
    else .ok (p.resolve d.here)

def readBytes (d : Disk) (p : Path) : Except FileFault (List UInt8) :=
  match d.status p with
  | .found _ (.file content) => .ok content
  | .found _ .directory => .error (.isDirectory p)
  | .missing => .error (.missing p)
  | .throughFile => .error (.notDirectory p)
  | .tooLong => .error (.tooLong p)
  | .unnameable why => .error (.unnameable why)

/-- The text of a file, with one line feed for each line end. -/
def readText (d : Disk) (p : Path) : Except FileFault Text := do
  let content ← d.readBytes p
  match Utf8.decode content with
  | .ok t => return t.normalizeLineEnds
  | .error fault => throw (.encoding fault)

/-- An entry at a place, in the stead of one that is there. -/
def put (place : Place) (e : Entry) (d : Disk) : Disk :=
  if (d.entries.lookup place).isSome then
    { d with entries := d.entries.map fun x => if x.1 == place then (place, e) else x }
  else { d with entries := d.entries ++ [(place, e)] }

def putDirectories (place : Place) (d : Disk) : Disk :=
  (List.range place.length).foldl
    (fun d n => let above := place.take (n + 1)
      if (d.entryAt above).isSome then d else d.put above .directory) d

/-- The place that a path would have, if the directories above it were made. -/
def placeOf (d : Disk) (p : Path) : Place := (p.resolve d.here).parts

def write (p : Path) (content : List UInt8) (d : Disk) : Disk :=
  let place := d.placeOf p
  (d.putDirectories place.dropLast).put place (.file content)

/-- The place of a file that is opened for writing. It need not be there, but the directory above it
must. -/
def fileAt (d : Disk) (p : Path) : Except FileFault Place :=
  match d.status p with
  | .found place (.file _) => .ok place
  | .found _ .directory => .error (.isDirectory p)
  | .throughFile => .error (.notDirectory p)
  | .tooLong => .error (.tooLong p)
  | .unnameable why => .error (.unnameable why)
  | .missing =>
    match d.status p.parent with
    | .found place .directory => .ok (place ++ [p.name])
    | _ => .error (.missing p)

/-- Writes a text to a file. The file is emptied before the text is encoded, and stays so where that
fails. -/
def writeText (p : Path) (t : Text) (d : Disk) : Disk × Except FileFault Unit :=
  match d.fileAt p with
  | .error fault => (d, .error fault)
  | .ok place =>
    match Utf8.unwritable? t with
    | some fault => (d.put place (.file []), .error (.unwritable fault))
    | none => (d.put place (.file (Utf8.encode t)), .ok ())

def makeDirectories (p : Path) (d : Disk) : Disk := d.putDirectories (d.placeOf p)

def remove (p : Path) (d : Disk) : Disk :=
  let place := d.placeOf p
  { d with entries := d.entries.filter fun e => !place.isPrefixOf e.1 }

def enter (p : Path) (d : Disk) : Except FileFault Disk :=
  match d.status p with
  | .found place .directory => .ok { d with here := place }
  | .found _ (.file _) | .throughFile => .error (.notDirectory p)
  | .missing => .error (.missing p)
  | .tooLong => .error (.tooLong p)
  | .unnameable why => .error (.unnameable why)

def ensureOne (d : Disk) (p : Path) : Except FileFault Disk :=
  match d.status p with
  | .found _ .directory => .ok d
  | .found _ (.file _) => .error (.exists p)
  | .throughFile => .error (.notDirectory p)
  | .tooLong => .error (.tooLong p)
  | .unnameable why => .error (.unnameable why)
  | .missing =>
    match d.status p.parent with
    | .found place .directory => .ok (d.put (place ++ [p.name]) .directory)
    | _ => .error (.missing p)

/-- Makes a directory after those above it; `depth` bounds how far above. What is made stays there
when the rest cannot be made. -/
def ensureFrom : Nat → Path → Disk → Disk × Except FileFault Unit
  | 0, p, d => settled d (d.ensureOne p)
  | depth + 1, p, d =>
    match d.ensureOne p with
    | .error (.missing q) =>
      if p.parts.isEmpty then (d, .error (.missing q))
      else match ensureFrom depth p.parent d with
        | (d, .ok _) => settled d (d.ensureOne p)
        | failed => failed
    | made => settled d made
where
  settled (d : Disk) : Except FileFault Disk → Disk × Except FileFault Unit
    | .ok made => (made, .ok ())
    | .error fault => (d, .error fault)

def ensure (p : Path) (d : Disk) : Disk × Except FileFault Unit := ensureFrom p.parts.length p d

end Disk
end ExposureLint
