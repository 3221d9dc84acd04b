import ExposureLint.Yaml.Tag
import ExposureLint.Yaml.Token.Stream

/-!
The nodes of a document. They stand in an arena and refer to each other by number, since an alias
makes one node part of several others, even of itself. A number is given out when the node begins,
so that an alias inside the node can refer to it. Nodes that are written inside each other take from
the room that there is for them; aliases do not.
-/
namespace ExposureLint.Yaml

inductive Content
  | scalar (content : Text)
  | sequence (items : List Nat)
  | mapping (entries : List (Nat × Nat))

structure Node where
  tag : Tag
  content : Content
  mark : Mark

instance : Inhabited Node := ⟨⟨.null, .scalar [], ⟨0, 0, 0⟩⟩⟩

abbrev Arena := Array Node

def Content.kind : Content → NodeKind
  | .scalar _ => .scalar
  | .sequence _ => .sequence
  | .mapping _ => .mapping

namespace Arena

def node (arena : Arena) (id : Nat) : Node := (arena[id]?).getD default

def setContent (id : Nat) (content : Content) (arena : Arena) : Arena :=
  arena.modify id fun n => { n with content := content }

def setTag (id : Nat) (tag : Tag) (arena : Arena) : Arena :=
  arena.modify id fun n => { n with tag := tag }

end Arena

/-- A document under construction: what is left of the tokens and of the room, what the handles of
tags stand for, and which node each anchor names. -/
structure Draft where
  feed : Feed
  room : Nat
  handles : List (Text × Text)
  anchors : List (Text × Nat)
  arena : Arena

abbrev Drafting := StateT Draft (Except Fault)

namespace Drafting

/-- The next token; what is wrong with the text shows where no token is left. -/
def next : Drafting Token := do
  let feed := (← get).feed
  match feed.tokens, feed.fault with
  | t :: _, _ => return t
  | [], some fault => throw fault
  | [], none => return ⟨.streamEnd, ⟨0, 0, 0⟩, ⟨0, 0, 0⟩⟩

def nextIs (lexemes : List Lexeme) : Drafting Bool := do
  return lexemes.contains (← next).lexeme

def pop : Drafting Unit :=
  modify fun d => { d with feed := { d.feed with tokens := d.feed.tokens.drop 1 } }

def complain {α : Type} (context : Option (Context × Option Mark)) (problem : Problem)
    (mark : Mark) : Drafting α :=
  throw (.complaint ⟨.grammar, context, problem, mark⟩)

def add (n : Node) : Drafting Nat := do
  let d ← get
  set { d with arena := d.arena.push n }
  return d.arena.size

def fill (id : Nat) (content : Content) : Drafting Unit :=
  modify fun d => { d with arena := d.arena.setContent id content }

def addEmpty (mark : Mark) : Drafting Nat := add ⟨.null, .scalar [], mark⟩

/-- What stands in front of a node: an anchor and a tag, where they are given, and their places. -/
structure Properties where
  anchor : Option Text
  tag : Option (WrittenTag × Mark)
  start : Option Mark

def takeAnchor : Drafting (Option (Text × Mark)) := do
  let t ← next
  match t.lexeme with
  | .anchor name => do
    pop
    return some (name, t.start)
  | _ => return none

def takeTag : Drafting (Option (WrittenTag × Mark)) := do
  let t ← next
  match t.lexeme with
  | .tag written => do
    pop
    return some (written, t.start)
  | _ => return none

def properties : Drafting Properties := do
  match ← takeAnchor with
  | some (name, start) =>
    let tag ← takeTag
    return ⟨some name, tag, some start⟩
  | none =>
    match ← takeTag with
    | some (written, start) =>
      let anchor ← takeAnchor
      return ⟨anchor.map (·.1), some (written, start), some start⟩
    | none => return ⟨none, none, none⟩

def tagName (p : Properties) : Drafting (Option Text) := do
  match p.tag with
  | none => return none
  | some (⟨none, suffix⟩, _) => return some suffix
  | some (⟨some handle, suffix⟩, mark) =>
    match (← get).handles.lookup handle with
    | some start => return some (start ++ suffix)
    | none => complain (some (.node, p.start)) (.undefinedHandle handle) mark

/-- The tag of a node with a given name; a lone exclamation mark leaves the tag open. -/
def tagOr (name : Option Text) (otherwise : Tag) : Tag :=
  match name with
  | none => otherwise
  | some name => if name == Text.ofString "!" then otherwise else Tag.ofName name

/-- The tag of a scalar: by its form, if it is plain or its tag was left open. -/
def scalarTag (name : Option Text) (plain : Bool) (content : Text) : Tag :=
  tagOr name (if name.isNone && !plain then .str else Tag.ofPlain content)

/-- Adds the node that begins here, under its anchor, which must be new. -/
def addNamed (anchor : Option Text) (n : Node) : Drafting Nat := do
  let d ← get
  match anchor with
  | none => add n
  | some name =>
    match d.anchors.lookup name with
    | some first =>
      throw (.complaint ⟨.aliases, some (.firstAnchor name, some (d.arena.node first).mark),
        .secondAnchor, n.mark⟩)
    | none =>
      let id ← add n
      modify fun d => { d with anchors := (name, id) :: d.anchors }
      return id

def anchored (name : Text) (mark : Mark) : Drafting Nat := do
  match (← get).anchors.lookup name with
  | some id => return id
  | none => throw (.complaint ⟨.aliases, none, .undefinedAlias name, mark⟩)

/-- Where a node stands: in a block or between brackets. A sequence below the key of a block need
not be indented. -/
inductive Place
  | block
  | underKey
  | flow
deriving DecidableEq

def addWritten (anchor : Option Text) (n : Node) : Drafting Nat := do
  let id ← addNamed anchor n
  pop
  return id

/-- Goes inside a node, for which there must be room, and out again. -/
def inside (content : Drafting Nat) : Drafting Nat := do
  match (← get).room with
  | 0 => throw .tooDeep
  | room + 1 =>
    modify fun d => { d with room := room }
    let id ← content
    modify fun d => { d with room := room + 1 }
    return id

mutual

/-- A node, with what is inside it. At least every fourth use of fuel takes a token. -/
def node (place : Place) : Nat → Drafting Nat
  | 0 => return 0
  | fuel + 1 => do
    let first ← next
    match first.lexeme with
    | .aliasOf name =>
      pop
      return ← anchored name first.start
    | _ => inside (content place fuel)

/-- A node that is no alias. -/
def content (place : Place) : Nat → Drafting Nat
  | 0 => return 0
  | fuel + 1 => do
    let p ← properties
    let name ← tagName p
    let t ← next
    let start := p.start.getD t.start
    let sequence : Node := ⟨tagOr name .seq, .sequence [], start⟩
    let mapping : Node := ⟨tagOr name .map, .mapping [], start⟩
    match t.lexeme, place with
    | .blockEntry, .underKey =>
      let id ← addNamed p.anchor sequence
      fill id (.sequence (← looseItems fuel))
      return id
    | .scalar content plain, _ =>
      addWritten p.anchor ⟨scalarTag name plain content, .scalar content, start⟩
    | .flowSequenceStart, _ =>
      let id ← addWritten p.anchor sequence
      fill id (.sequence (← flowItems t.start true fuel))
      return id
    | .flowMappingStart, _ =>
      let id ← addWritten p.anchor mapping
      fill id (.mapping (← flowEntries t.start true fuel))
      return id
    | .blockSequenceStart, .block | .blockSequenceStart, .underKey =>
      let id ← addWritten p.anchor sequence
      fill id (.sequence (← blockItems t.start fuel))
      return id
    | .blockMappingStart, .block | .blockMappingStart, .underKey =>
      let id ← addWritten p.anchor mapping
      fill id (.mapping (← blockEntries t.start fuel))
      return id
    | found, _ =>
      if p.start.isSome then addNamed p.anchor ⟨scalarTag name true [], .scalar [], start⟩
      else
        let context := if place == .flow then Context.flowNode else Context.blockNode
        complain (some (context, some start)) (.nodeContent found.name) t.start

def nodeUnless (stops : List Lexeme) (place : Place) (mark : Mark) : Nat → Drafting Nat
  | 0 => return 0
  | fuel + 1 => do
    if ← nextIs stops then addEmpty mark else node place fuel

def valueUnless (stops : List Lexeme) (place : Place) : Nat → Drafting Nat
  | 0 => return 0
  | fuel + 1 => do
    let t ← next
    if t.lexeme == .value then do
      pop
      nodeUnless stops place t.stop fuel
    else addEmpty t.start

def blockItems (start : Mark) : Nat → Drafting (List Nat)
  | 0 => return []
  | fuel + 1 => do
    let t ← next
    if t.lexeme == .blockEntry then do
      pop
      let item ← nodeUnless [.blockEntry, .blockEnd] .block t.stop fuel
      let items ← blockItems start fuel
      return item :: items
    else if t.lexeme == .blockEnd then do
      pop
      return []
    else complain (some (.blockCollection, some start)) (.blockEnd t.lexeme.name) t.start

/-- The items of a sequence that is not indented; what else comes ends it. -/
def looseItems : Nat → Drafting (List Nat)
  | 0 => return []
  | fuel + 1 => do
    let t ← next
    if t.lexeme == .blockEntry then do
      pop
      let item ← nodeUnless [.blockEntry, .key, .value, .blockEnd] .block t.stop fuel
      let items ← looseItems fuel
      return item :: items
    else return []

def blockEntries (start : Mark) : Nat → Drafting (List (Nat × Nat))
  | 0 => return []
  | fuel + 1 => do
    let t ← next
    if t.lexeme == .key then do
      pop
      let key ← nodeUnless [.key, .value, .blockEnd] .underKey t.stop fuel
      let value ← valueUnless [.key, .value, .blockEnd] .underKey fuel
      let entries ← blockEntries start fuel
      return (key, value) :: entries
    else if t.lexeme == .blockEnd then do
      pop
      return []
    else complain (some (.blockMapping, some start)) (.blockEnd t.lexeme.name) t.start

/-- The items of a flow sequence that began at `start`. A key makes an item a mapping with that key
alone. -/
def flowItems (start : Mark) (isFirst : Bool) : Nat → Drafting (List Nat)
  | 0 => return []
  | fuel + 1 => do
    let t ← next
    if t.lexeme != .flowSequenceEnd && !isFirst then
      if t.lexeme == .flowEntry then pop
      else complain (some (.flowSequence, some start)) (.flowSequenceEnd t.lexeme.name) t.start
    let t ← next
    if t.lexeme == .key then do
      let id ← add ⟨.map, .mapping [], t.start⟩
      pop
      let key ← nodeUnless [.value, .flowEntry, .flowSequenceEnd] .flow t.stop fuel
      let value ← valueUnless [.flowEntry, .flowSequenceEnd] .flow fuel
      fill id (.mapping [(key, value)])
      let items ← flowItems start false fuel
      return id :: items
    else if t.lexeme == .flowSequenceEnd then do
      pop
      return []
    else do
      let item ← node .flow fuel
      let items ← flowItems start false fuel
      return item :: items

/-- The entries of a flow mapping that began at `start`. An entry without a key sign has no value.
-/
def flowEntries (start : Mark) (isFirst : Bool) : Nat → Drafting (List (Nat × Nat))
  | 0 => return []
  | fuel + 1 => do
    let t ← next
    if t.lexeme != .flowMappingEnd && !isFirst then
      if t.lexeme == .flowEntry then pop
      else complain (some (.flowMapping, some start)) (.flowMappingEnd t.lexeme.name) t.start
    let t ← next
    if t.lexeme == .key then do
      pop
      let key ← nodeUnless [.value, .flowEntry, .flowMappingEnd] .flow t.stop fuel
      let value ← valueUnless [.flowEntry, .flowMappingEnd] .flow fuel
      let entries ← flowEntries start false fuel
      return (key, value) :: entries
    else if t.lexeme == .flowMappingEnd then do
      pop
      return []
    else do
      let key ← node .flow fuel
      let value ← addEmpty (← next).start
      let entries ← flowEntries start false fuel
      return (key, value) :: entries

end

/-- What the handles stand for that need no directive. -/
def defaultHandles : List (Text × Text) := [("!", "!"), ("!!", Tag.standardStart)]

/-- The directives before a document. A version may be given once, and must be of the first line of
versions; a handle may be given once, even one of the default ones. -/
def directives : Nat → Bool → List (Text × Text) → Drafting (List (Text × Text))
  | 0, _, handles => return handles
  | fuel + 1, versioned, handles => do
    let t ← next
    match t.lexeme with
    | .directive (.version major _) => do
      pop
      if versioned then complain none .duplicateDirective t.start
      else if major != 1 then complain none .incompatibleVersion t.start
      else directives fuel true handles
    | .directive (.handle name start) => do
      pop
      if (handles.lookup name).isSome then complain none (.duplicateHandle name) t.start
      else directives fuel versioned ((name, start) :: handles)
    | .directive .unknown => do
      pop
      directives fuel versioned handles
    | _ => return handles

def skipEnds : Nat → Drafting Unit
  | 0 => return ()
  | fuel + 1 => do
    if ← nextIs [.documentEnd] then do
      pop
      skipEnds fuel

def documentStart (fuel : Nat) : Drafting (Option Mark) := do
  skipEnds fuel
  let t ← next
  if t.lexeme == .streamEnd then return none
  else
    let handles ← directives fuel false []
    modify fun d => { d with handles := handles ++ defaultHandles }
    let found ← next
    if found.lexeme == .documentStart then do
      pop
      return some t.start
    else complain none (.documentStart found.lexeme.name) found.start

def isDirective : Lexeme → Bool
  | .directive _ => true
  | _ => false

def documentContent (fuel : Nat) : Drafting Nat := do
  let t ← next
  if isDirective t.lexeme || [.documentStart, .documentEnd, .streamEnd].contains t.lexeme then
    addEmpty t.start
  else node .block fuel

/-- The root of the first document, which may begin without a mark. -/
def root (fuel : Nat) : Drafting (Option Nat) := do
  let t ← next
  if isDirective t.lexeme || [.documentStart, .streamEnd].contains t.lexeme then
    match ← documentStart fuel with
    | none => return none
    | some _ => some <$> documentContent fuel
  else some <$> node .block fuel

def onlyRoot (fuel : Nat) : Drafting (Option Nat) := do
  match ← root fuel with
  | none => return none
  | some id =>
    if ← nextIs [.documentEnd] then pop
    match ← documentStart fuel with
    | none => return some id
    | some second =>
      let mark := ((← get).arena.node id).mark
      throw (.complaint ⟨.aliases, some (.singleDocument, some mark), .anotherDocument, second⟩)

end Drafting

def compose (room : Nat) (t : Text) : Except Fault (Option Nat × Arena) := do
  let feed := feed t
  let draft : Draft := ⟨feed, room, Drafting.defaultHandles, [], #[]⟩
  let (root, draft) ← (Drafting.onlyRoot (4 * feed.tokens.length + 8)).run draft
  return (root, draft.arena)

end ExposureLint.Yaml
