import ExposureLint.Document.Value
import ExposureLint.Yaml.Merge
import ExposureLint.Yaml.Scalar

/-!
The value of a document. Containers are filled one after the other in the order in which they were
first met, so that a container can be part of itself, and of two faults the one further out shows
first. In the end the filled containers are unfolded into one value. A chain of aliases may be of
any length, and where one is followed, it takes from the room that there is.
-/
namespace ExposureLint.Yaml

/-- A value that is a scalar, or a container that is told by the number of its node. -/
inductive Part
  | scalar (s : Scalar)
  | container (id : Nat)

inductive Filling
  | list (items : List Part)
  | map (entries : List (Scalar × Part))
  | set (members : List Scalar)
  | pairs (items : List (Part × Part))

/-- The nodes, the containers that were met, with their fillings as far as they are known, and those
that are still to be filled. -/
structure Site where
  arena : Arena
  room : Nat
  met : Array Bool
  fillings : Array (Option Filling)
  toFill : List Nat

abbrev Building := StateT Site (Except Fault)

namespace Building

def complain {α : Type} (context : Option Context) (place : Mark) (problem : Problem)
    (mark : Mark) : Building α :=
  throw (.complaint ⟨.values, context.map fun c => (c, some place), problem, mark⟩)

def nodeAt (id : Nat) : Building Node := do
  return (← get).arena.node id

/-- The text of a scalar node; that of a mapping is what `inner` finds under its equals sign. -/
def textFrom (inner : Nat → Building Text) (id : Nat) : Building Text := do
  let n ← nodeAt id
  match n.content with
  | .scalar content => return content
  | .mapping entries =>
    let arena := (← get).arena
    match entries.find? fun e => (arena.node e.1).tag == .value with
    | some (_, value) => inner value
    | none => complain none n.mark (.wrongKind .scalar .mapping) n.mark
  | .sequence _ => complain none n.mark (.wrongKind .scalar .sequence) n.mark

/-- The same behind as many equals signs as there is room for. A node may be behind its own sign,
and then there never is enough. -/
def textOf : Nat → Nat → Building Text
  | 0, _ => throw .tooDeep
  | room + 1, id => textFrom (textOf room) id

def scalarText (id : Nat) : Building Text := do
  textOf (← get).room id

def lift {α : Type} (r : Except ScalarFault α) : Building α :=
  match r with
  | .ok x => return x
  | .error fault => throw (.scalar fault)

def binary (id : Nat) : Building Scalar := do
  let written ← scalarText id
  match Base64.decode written with
  | .ok content => return .bytes content
  | .error fault =>
    let mark := (← nodeAt id).mark
    complain none mark (.base64 fault) mark

/-- Only a scalar node has a text for a timestamp. -/
def timestamp (id : Nat) : Building Scalar := do
  let written ← scalarText id
  match (← nodeAt id).content with
  | .scalar _ => lift (readTimestamp written)
  | _ => throw (.scalar .timestampOfMapping)

/-- A container, which is noted to be filled when it is met for the first time. -/
def container (id : Nat) : Building Part := do
  let site ← get
  if site.met.getD id true then return .container id
  else
    set { site with met := site.met.setIfInBounds id true, toFill := site.toFill ++ [id] }
    return .container id

def part (id : Nat) : Building Part := do
  let n ← nodeAt id
  match n.tag with
  | .null => do
    let _ ← scalarText id
    return .scalar .null
  | .bool => return .scalar (.bool (← lift (readBool (← scalarText id))))
  | .int => return .scalar (.int (← lift (readInt (← scalarText id))))
  | .float => return .scalar (.float (← lift (readFloat (id + 1) (← scalarText id))))
  | .str => return .scalar (.text (← scalarText id))
  | .binary => return .scalar (← binary id)
  | .timestamp => return .scalar (← timestamp id)
  | .seq | .map | .set | .orderedMap | .pairs => container id
  | .merge | .value | .indicator | .other _ =>
    complain none n.mark (.unknownTag n.tag.name) n.mark

def items (n : Node) : Building (List Part) := do
  match n.content with
  | .sequence ids => ids.mapM part
  | content => complain none n.mark (.wrongKind .sequence content.kind) n.mark

/-- Entries with a key that is already there keep its place and take the new value. -/
def putPart (key : Scalar) (value : Part) : List (Scalar × Part) → List (Scalar × Part)
  | [] => [(key, value)]
  | (k, old) :: rest =>
    if k.sameKey key then (k, value) :: rest else (k, old) :: putPart key value rest

def entriesFrom (n : Node) (done : List (Scalar × Part)) :
    List (Nat × Nat) → Building (List (Scalar × Part))
  | [] => return done
  | (k, v) :: rest => do
    match ← part k with
    | .container _ => complain (some .mapping) n.mark .unhashableKey (← nodeAt k).mark
    | .scalar key =>
      let value ← part v
      entriesFrom n (putPart key value done) rest

def merge (id : Nat) : Building Unit := do
  let site ← get
  let ((), arena) ← (Merging.mergeInto site.room id).run site.arena
  set { site with arena := arena }

def entries (id : Nat) (n : Node) : Building (List (Scalar × Part)) := do
  match n.content with
  | .mapping _ =>
    merge id
    entriesFrom n [] ((← get).arena.entries id)
  | content => complain none n.mark (.wrongKind .mapping content.kind) n.mark

def pairOf (context : Context) (place : Mark) (id : Nat) : Building (Part × Part) := do
  let n ← nodeAt id
  match n.content with
  | .mapping [(k, v)] =>
    let key ← part k
    let value ← part v
    return (key, value)
  | .mapping entries => complain (some context) place (.pairSize entries.length) n.mark
  | content => complain (some context) place (.pairItem content.kind) n.mark

def pairs (context : Context) (n : Node) : Building (List (Part × Part)) := do
  match n.content with
  | .sequence ids => ids.mapM (pairOf context n.mark)
  | content => complain (some context) n.mark (.pairList content.kind) n.mark

def filling (id : Nat) : Building Filling := do
  let n ← nodeAt id
  match n.tag with
  | .map => return .map (← entries id n)
  | .set => return .set ((← entries id n).map (·.1))
  | .orderedMap => return .pairs (← pairs .orderedMap n)
  | .pairs => return .pairs (← pairs .pairs n)
  | _ => return .list (← items n)

/-- Fills the containers until none is left; each is filled once. -/
def fillAll : Nat → Building Unit
  | 0 => return ()
  | fuel + 1 => do
    match (← get).toFill with
    | [] => return ()
    | id :: rest =>
      modify fun site => { site with toFill := rest }
      let filled ← filling id
      modify fun site =>
        { site with fillings := site.fillings.setIfInBounds id (some filled) }
      fillAll fuel

end Building

/-- A value with the labels that it refers to without standing inside them. -/
structure Unfolded where
  value : Value
  refs : List Nat

/-- A container with all that is inside, where `around` are the containers around it. One that is
inside itself gets a label. -/
def unfold (fillings : Array (Option Filling)) : Nat → List Nat → Nat → Unfolded
  | 0, _, id => ⟨.ref id, [id]⟩
  | fuel + 1, around, id =>
    if around.contains id then ⟨.ref id, [id]⟩
    else
      let inside (p : Part) : Unfolded := match p with
        | .scalar s => ⟨.scalar s, []⟩
        | .container k => unfold fillings fuel (id :: around) k
      let whole : Unfolded := match fillings.getD id none with
        | some (.list items) =>
          let us := items.map inside
          ⟨.list (us.map (·.value)), us.flatMap (·.refs)⟩
        | some (.map entries) =>
          let us := entries.map fun e => (e.1, inside e.2)
          ⟨.map (us.map fun e => (e.1, e.2.value)), us.flatMap (·.2.refs)⟩
        | some (.set members) => ⟨.set members, []⟩
        | some (.pairs items) =>
          let us := items.map fun e => (inside e.1, inside e.2)
          ⟨.list (us.map fun e => .pair e.1.value e.2.value),
            us.flatMap fun e => e.1.refs ++ e.2.refs⟩
        | none => ⟨.null, []⟩
      if whole.refs.isEmpty then whole
      else ⟨.labelled id whole.value, whole.refs.filter fun k => k != id⟩

def build (room : Nat) (arena : Arena) (root : Nat) : Except Fault Value := do
  let count := arena.size
  let site : Site := ⟨arena, room, Array.replicate count false, Array.replicate count none, []⟩
  let work : Building Part := do
    let p ← Building.part root
    Building.fillAll (count + 1)
    return p
  let (p, site) ← work.run site
  match p with
  | .scalar s => return .scalar s
  | .container id => return (unfold site.fillings (count + 1) [] id).value

def isAllowed (c : CodePoint) : Bool :=
  c == '\t' || c == '\n' || c == '\r' || (0x20 ≤ c.val && c.val ≤ 0x7E) || c.val == 0x85
    || (0xA0 ≤ c.val && c.val ≤ 0xD7FF) || (0xE000 ≤ c.val && c.val ≤ 0xFFFD) || 0x10000 ≤ c.val

/-- The value of the only document in a text, null if there is none; read with the given room. -/
def read (room : Nat) (t : Text) : Except Fault Value := do
  match t.find? fun c => !isAllowed c with
  | some c => throw (.character c (t.takeWhile isAllowed).length)
  | none =>
    let (root?, arena) ← compose room t
    match root? with
    | none => return .null
    | some root => build room arena root

end ExposureLint.Yaml
