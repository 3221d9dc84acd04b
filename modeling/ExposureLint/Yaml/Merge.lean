import ExposureLint.Yaml.Node

/-!
Merge keys. The entry with the key `<<` of a mapping gives way to the entries of another mapping, or
of several, which come in front of its own. Of several mappings the first counts most, so its
entries come last among those merged in.
-/
namespace ExposureLint.Yaml

namespace Arena

def entries (arena : Arena) (id : Nat) : List (Nat × Nat) :=
  match (arena.node id).content with
  | .mapping entries => entries
  | _ => []

def kind (arena : Arena) (id : Nat) : NodeKind := (arena.node id).content.kind

end Arena

abbrev Merging := StateT Arena (Except Fault)

namespace Merging

def complain {α : Type} (context mark : Mark) (problem : Problem) : Merging α :=
  throw (.complaint ⟨.values, some (.mapping, some context), problem, mark⟩)

/-- The entries that a list of mappings brings in, the first mapping last. -/
def fromList (inner : Nat → Merging Unit) (context : Mark) : List Nat → Merging (List (Nat × Nat))
  | [] => return []
  | item :: rest => do
    let arena ← get
    if arena.kind item == .mapping then
      inner item
      let own := (← get).entries item
      let others ← fromList inner context rest
      return others ++ own
    else complain context (arena.node item).mark (.mergeItem (arena.kind item))

/-- The entries that the value of a merge key brings in. `inner` merges into a mapping. -/
def fromValue (inner : Nat → Merging Unit) (context : Mark) (value : Nat) :
    Merging (List (Nat × Nat)) := do
  let node := (← get).node value
  match node.content with
  | .mapping _ =>
    inner value
    return (← get).entries value
  | .sequence items => fromList inner context items
  | .scalar _ => complain context node.mark (.mergeValue .scalar)

/-- Goes through the entries of a mapping from `index` on: a merge key is taken out and its entries
are added to `merged`, and an equals sign as a key becomes a text. -/
def walk (inner : Nat → Merging Unit) (id : Nat) :
    Nat → Nat → List (Nat × Nat) → Merging (List (Nat × Nat))
  | 0, _, merged => return merged
  | fuel + 1, index, merged => do
    let arena ← get
    match (arena.entries id)[index]? with
    | none => return merged
    | some (key, value) =>
      match (arena.node key).tag with
      | .merge =>
        set (arena.setContent id (.mapping ((arena.entries id).eraseIdx index)))
        let more ← fromValue inner (arena.node id).mark value
        walk inner id fuel index (merged ++ more)
      | .value =>
        set (arena.setTag key .str)
        walk inner id fuel (index + 1) merged
      | _ => walk inner id fuel (index + 1) merged

/-- Merges into a mapping, after merging into the mappings that it takes entries from; `room` is for
those that take entries from each other. Each step inward has taken out a merge key, so there are no
more of them than entries. -/
def mergeInto : Nat → Nat → Merging Unit
  | 0, _ => throw .tooDeep
  | room + 1, id => do
    let merged ← walk (mergeInto room) id ((← get).entries id).length 0 []
    if !merged.isEmpty then
      modify fun arena => arena.setContent id (.mapping (merged ++ arena.entries id))

end Merging
end ExposureLint.Yaml
