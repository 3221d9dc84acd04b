import Mathlib
import ExposureLint.Proofs.DistinctKeys
import ExposureLint.Proofs.ScanFaults
import ExposureLint.Yaml.Build

/-!
Reading a YAML text. What it fails with has a place in the text, or it is one of the faults that an
escape, the number of a version or a text under a tag can lead to.
-/
namespace ExposureLint.Yaml

def FeedKnown (d : Draft) : Prop := ∀ fault, d.feed.fault = some fault → IsKnown fault

namespace Drafting

theorem next_keeps : Keeps FeedKnown IsKnown next := by
  refine .get_bind fun d kept => ?_
  simp only
  split
  · exact .pure _
  · rename_i fault _ found
    exact .throw (kept fault found)
  · exact .pure _

theorem nextIs_keeps (lexemes : List Lexeme) : Keeps FeedKnown IsKnown (nextIs lexemes) :=
  .bind next_keeps fun _ => .pure _

theorem pop_keeps : Keeps FeedKnown IsKnown pop :=
  .update fun _ kept => kept

theorem complain_keeps {α : Type} (context : Option (Context × Option Mark)) (problem : Problem)
    (mark : Mark) : Keeps FeedKnown IsKnown (complain context problem mark : Drafting α) :=
  .throw (complaint_known _)

theorem add_keeps (n : Node) : Keeps FeedKnown IsKnown (add n) :=
  .get_bind fun _ kept => .bind (.set kept) fun _ => .pure _

theorem fill_keeps (id : Nat) (content : Content) : Keeps FeedKnown IsKnown (fill id content) :=
  .update fun _ kept => kept

theorem addEmpty_keeps (mark : Mark) : Keeps FeedKnown IsKnown (addEmpty mark) := add_keeps _

theorem takeAnchor_keeps : Keeps FeedKnown IsKnown takeAnchor := by
  apply Keeps.bind next_keeps
  intro t
  split
  · exact .bind pop_keeps fun _ => .pure _
  · exact .pure _

theorem takeTag_keeps : Keeps FeedKnown IsKnown takeTag := by
  apply Keeps.bind next_keeps
  intro t
  split
  · exact .bind pop_keeps fun _ => .pure _
  · exact .pure _

theorem properties_keeps : Keeps FeedKnown IsKnown properties := by
  apply Keeps.bind takeAnchor_keeps
  intro anchor
  split
  · exact .bind takeTag_keeps fun _ => .pure _
  · apply Keeps.bind takeTag_keeps
    intro tag
    split
    · exact .bind takeAnchor_keeps fun _ => .pure _
    · exact .pure _

theorem tagName_keeps (p : Properties) : Keeps FeedKnown IsKnown (tagName p) := by
  unfold tagName
  split
  · exact .pure _
  · exact .pure _
  · apply Keeps.bind .get
    intro d
    split
    · exact .pure _
    · exact complain_keeps _ _ _

theorem addNamed_keeps (anchor : Option Text) (n : Node) :
    Keeps FeedKnown IsKnown (addNamed anchor n) := by
  apply Keeps.bind .get
  intro d
  split
  · exact add_keeps n
  · split
    · exact .throw (complaint_known _)
    · exact .bind (add_keeps n) fun _ => .bind (.update fun _ kept => kept) fun _ => .pure _

theorem anchored_keeps (name : Text) (mark : Mark) :
    Keeps FeedKnown IsKnown (anchored name mark) := by
  apply Keeps.bind .get
  intro d
  split
  · exact .pure _
  · exact .throw (complaint_known _)

theorem addWritten_keeps (anchor : Option Text) (n : Node) :
    Keeps FeedKnown IsKnown (addWritten anchor n) :=
  .bind (addNamed_keeps anchor n) fun _ => .bind pop_keeps fun _ => .pure _

theorem inside_keeps {content : Drafting Nat} (kept : Keeps FeedKnown IsKnown content) :
    Keeps FeedKnown IsKnown (inside content) := by
  apply Keeps.bind .get
  intro d
  split
  · exact .throw tooDeep_known
  · refine .bind (.update fun _ known => known) fun _ => .bind kept fun id => ?_
    exact .bind (.update fun _ known => known) fun _ => .pure id

/-- The steps into nodes with the same fuel. -/
structure NodesKeep (fuel : Nat) : Prop where
  node : ∀ place, Keeps FeedKnown IsKnown (Drafting.node place fuel)
  content : ∀ place, Keeps FeedKnown IsKnown (Drafting.content place fuel)
  nodeUnless : ∀ stops place mark,
    Keeps FeedKnown IsKnown (Drafting.nodeUnless stops place mark fuel)
  valueUnless : ∀ stops place, Keeps FeedKnown IsKnown (Drafting.valueUnless stops place fuel)
  blockItems : ∀ start, Keeps FeedKnown IsKnown (Drafting.blockItems start fuel)
  looseItems : Keeps FeedKnown IsKnown (Drafting.looseItems fuel)
  blockEntries : ∀ start, Keeps FeedKnown IsKnown (Drafting.blockEntries start fuel)
  flowItems : ∀ start isFirst, Keeps FeedKnown IsKnown (Drafting.flowItems start isFirst fuel)
  flowEntries : ∀ start isFirst, Keeps FeedKnown IsKnown (Drafting.flowEntries start isFirst fuel)

namespace NodesKeep
variable {fuel : Nat}

theorem zero : NodesKeep 0 where
  node _ := .pure _
  content _ := .pure _
  nodeUnless _ _ _ := .pure _
  valueUnless _ _ := .pure _
  blockItems _ := .pure _
  looseItems := .pure _
  blockEntries _ := .pure _
  flowItems _ _ := .pure _
  flowEntries _ _ := .pure _

theorem node_step (inner : NodesKeep fuel) (place : Place) :
    Keeps FeedKnown IsKnown (Drafting.node place (fuel + 1)) := by
  unfold Drafting.node
  apply Keeps.bind next_keeps
  intro first
  split
  · exact .bind pop_keeps fun _ => anchored_keeps _ _
  · exact inside_keeps (inner.content place)

/-- A collection is added before what is in it, and filled afterwards. -/
theorem collected {α : Type} {begin : Drafting Nat} {items : Drafting α} {whole : α → Content}
    (begun : Keeps FeedKnown IsKnown begin) (inside : Keeps FeedKnown IsKnown items) :
    Keeps FeedKnown IsKnown (do
      let id ← begin
      fill id (whole (← items))
      return id) :=
  .bind begun fun _ => .bind inside fun _ => .bind (fill_keeps _ _) fun _ => .pure _

theorem content_step (inner : NodesKeep fuel) (place : Place) :
    Keeps FeedKnown IsKnown (Drafting.content place (fuel + 1)) := by
  unfold Drafting.content
  apply Keeps.bind properties_keeps
  intro p
  apply Keeps.bind (tagName_keeps p)
  intro name
  apply Keeps.bind next_keeps
  intro t
  simp only
  -- One case for each way a node can begin; the last is that of a token that begins none.
  split
  · exact collected (addNamed_keeps _ _) inner.looseItems
  · exact addWritten_keeps _ _
  · exact collected (addWritten_keeps _ _) (inner.flowItems _ _)
  · exact collected (addWritten_keeps _ _) (inner.flowEntries _ _)
  · exact collected (addWritten_keeps _ _) (inner.blockItems _)
  · exact collected (addWritten_keeps _ _) (inner.blockItems _)
  · exact collected (addWritten_keeps _ _) (inner.blockEntries _)
  · exact collected (addWritten_keeps _ _) (inner.blockEntries _)
  · exact .ite (addNamed_keeps _ _) (complain_keeps _ _ _)

theorem nodeUnless_step (inner : NodesKeep fuel) (stops : List Lexeme) (place : Place)
    (mark : Mark) : Keeps FeedKnown IsKnown (Drafting.nodeUnless stops place mark (fuel + 1)) := by
  unfold Drafting.nodeUnless
  exact .bind (nextIs_keeps stops) fun _ => .ite (addEmpty_keeps mark) (inner.node place)

theorem valueUnless_step (inner : NodesKeep fuel) (stops : List Lexeme) (place : Place) :
    Keeps FeedKnown IsKnown (Drafting.valueUnless stops place (fuel + 1)) := by
  unfold Drafting.valueUnless
  refine .bind next_keeps fun t => .ite ?_ (addEmpty_keeps _)
  exact .bind pop_keeps fun _ => inner.nodeUnless stops place _

theorem blockItems_step (inner : NodesKeep fuel) (start : Mark) :
    Keeps FeedKnown IsKnown (Drafting.blockItems start (fuel + 1)) := by
  unfold Drafting.blockItems
  refine .bind next_keeps fun t => .ite ?_ (.ite ?_ (complain_keeps _ _ _))
  · apply Keeps.bind pop_keeps
    intro _
    apply Keeps.bind (inner.nodeUnless _ _ _)
    intro _
    exact .bind (inner.blockItems start) fun _ => .pure _
  · exact .bind pop_keeps fun _ => .pure _

theorem looseItems_step (inner : NodesKeep fuel) :
    Keeps FeedKnown IsKnown (Drafting.looseItems (fuel + 1)) := by
  unfold Drafting.looseItems
  refine .bind next_keeps fun t => .ite ?_ (.pure _)
  apply Keeps.bind pop_keeps
  intro _
  apply Keeps.bind (inner.nodeUnless _ _ _)
  intro _
  exact .bind inner.looseItems fun _ => .pure _

theorem keyed {α : Type} (inner : NodesKeep fuel) {stops stops' : List Lexeme} {place : Place}
    {mark : Mark} {rest : Nat → Nat → Drafting α}
    (after : ∀ key value, Keeps FeedKnown IsKnown (rest key value)) :
    Keeps FeedKnown IsKnown (do
      let key ← Drafting.nodeUnless stops place mark fuel
      let value ← Drafting.valueUnless stops' place fuel
      rest key value) :=
  .bind (inner.nodeUnless _ _ _) fun key => .bind (inner.valueUnless _ _) fun value =>
    after key value

theorem blockEntries_step (inner : NodesKeep fuel) (start : Mark) :
    Keeps FeedKnown IsKnown (Drafting.blockEntries start (fuel + 1)) := by
  unfold Drafting.blockEntries
  refine .bind next_keeps fun t => .ite ?_ (.ite ?_ (complain_keeps _ _ _))
  · refine .bind pop_keeps fun _ => inner.keyed fun key value => ?_
    exact .bind (inner.blockEntries start) fun _ => .pure _
  · exact .bind pop_keeps fun _ => .pure _

theorem separated {α : Type} {c d : Prop} [Decidable c] [Decidable d]
    {context : Option (Context × Option Mark)} {problem : Problem} {mark : Mark}
    {rest : Unit → Drafting α} (after : ∀ u, Keeps FeedKnown IsKnown (rest u)) :
    Keeps FeedKnown IsKnown
      (if c then
        if d then pop >>= rest else complain context problem mark >>= rest
      else rest ()) :=
  .ite (.ite (.bind pop_keeps after) (.bind (complain_keeps _ _ _) after)) (after ())

theorem flowItems_step (inner : NodesKeep fuel) (start : Mark) (isFirst : Bool) :
    Keeps FeedKnown IsKnown (Drafting.flowItems start isFirst (fuel + 1)) := by
  unfold Drafting.flowItems
  refine .bind next_keeps fun t => separated fun _ => .bind next_keeps fun t => ?_
  refine .ite ?_ (.ite (.bind pop_keeps fun _ => .pure _) ?_)
  · refine .bind (add_keeps _) fun id => .bind pop_keeps fun _ => inner.keyed fun key value => ?_
    apply Keeps.bind (fill_keeps _ _)
    intro _
    exact .bind (inner.flowItems start false) fun _ => .pure _
  · exact .bind (inner.node _) fun item => .bind (inner.flowItems start false) fun _ => .pure _

theorem flowEntries_step (inner : NodesKeep fuel) (start : Mark) (isFirst : Bool) :
    Keeps FeedKnown IsKnown (Drafting.flowEntries start isFirst (fuel + 1)) := by
  unfold Drafting.flowEntries
  refine .bind next_keeps fun t => separated fun _ => .bind next_keeps fun t => ?_
  refine .ite ?_ (.ite (.bind pop_keeps fun _ => .pure _) ?_)
  · refine .bind pop_keeps fun _ => inner.keyed fun key value => ?_
    exact .bind (inner.flowEntries start false) fun _ => .pure _
  · apply Keeps.bind (inner.node _)
    intro key
    apply Keeps.bind next_keeps
    intro t
    apply Keeps.bind (addEmpty_keeps _)
    intro value
    exact .bind (inner.flowEntries start false) fun _ => .pure _

theorem all (fuel : Nat) : NodesKeep fuel := by
  induction fuel with
  | zero => exact zero
  | succ fuel inner =>
    exact {
      node := inner.node_step
      content := inner.content_step
      nodeUnless := inner.nodeUnless_step
      valueUnless := inner.valueUnless_step
      blockItems := inner.blockItems_step
      looseItems := inner.looseItems_step
      blockEntries := inner.blockEntries_step
      flowItems := inner.flowItems_step
      flowEntries := inner.flowEntries_step }

end NodesKeep

theorem directives_keeps (fuel : Nat) (versioned : Bool) (handles : List (Text × Text)) :
    Keeps FeedKnown IsKnown (directives fuel versioned handles) := by
  induction fuel generalizing versioned handles with
  | zero => exact .pure _
  | succ fuel ih =>
    unfold directives
    apply Keeps.bind next_keeps
    intro t
    split
    · exact .bind pop_keeps fun _ =>
        .ite (complain_keeps _ _ _) (.ite (complain_keeps _ _ _) (ih _ _))
    · exact .bind pop_keeps fun _ => .ite (complain_keeps _ _ _) (ih _ _)
    · exact .bind pop_keeps fun _ => ih _ _
    · exact .pure _

theorem skipEnds_keeps (fuel : Nat) : Keeps FeedKnown IsKnown (skipEnds fuel) := by
  induction fuel with
  | zero => exact .pure _
  | succ fuel ih =>
    exact .bind (nextIs_keeps _) fun _ => .ite (.bind pop_keeps fun _ => ih) (.pure _)

theorem documentStart_keeps (fuel : Nat) : Keeps FeedKnown IsKnown (documentStart fuel) := by
  refine .bind (skipEnds_keeps fuel) fun _ => .bind next_keeps fun t => .ite (.pure _) ?_
  apply Keeps.bind (directives_keeps fuel false [])
  intro _
  refine .bind (.update fun _ kept => kept) fun _ => .bind next_keeps fun found => ?_
  exact .ite (.bind pop_keeps fun _ => .pure _) (complain_keeps _ _ _)

theorem documentContent_keeps (fuel : Nat) : Keeps FeedKnown IsKnown (documentContent fuel) :=
  .bind next_keeps fun _ => .ite (addEmpty_keeps _) ((NodesKeep.all fuel).node .block)

theorem root_keeps (fuel : Nat) : Keeps FeedKnown IsKnown (root fuel) := by
  refine .bind next_keeps fun t => .ite ?_ (.map ((NodesKeep.all fuel).node .block))
  apply Keeps.bind (documentStart_keeps fuel)
  intro start
  split
  · exact .pure _
  · exact .map (documentContent_keeps fuel)

theorem optional_keeps {α : Type} {c : Prop} [Decidable c] {rest : Unit → Drafting α}
    (after : ∀ u, Keeps FeedKnown IsKnown (rest u)) :
    Keeps FeedKnown IsKnown (if c then pop >>= rest else rest ()) :=
  .ite (.bind pop_keeps after) (after ())

theorem onlyRoot_keeps (fuel : Nat) : Keeps FeedKnown IsKnown (onlyRoot fuel) := by
  apply Keeps.bind (root_keeps fuel)
  intro root
  split
  · exact .pure _
  · refine .bind (nextIs_keeps _) fun ended => optional_keeps fun _ => ?_
    apply Keeps.bind (documentStart_keeps fuel)
    intro second
    split
    · exact .pure _
    · exact .bind .get fun _ => .throw (complaint_known _)

end Drafting

theorem compose_yields (room : Nat) (t : Text) : FailsOnly IsKnown (compose room t) := by
  have begun : FeedKnown ⟨feed t, room, Drafting.defaultHandles, [], #[]⟩ := fun _ => feed_fault_known
  exact (Drafting.onlyRoot_keeps _ _ begun).bind fun _ _ => .ok trivial

namespace Merging

/-- Merging that fails only with what is known, whatever the nodes are. -/
abbrev IsSafe {α : Type} (x : Merging α) : Prop := Keeps (fun _ => True) IsKnown x

theorem complain_safe {α : Type} (context mark : Mark) (problem : Problem) :
    IsSafe (complain context mark problem : Merging α) :=
  .throw (complaint_known _)

section
variable {inner : Nat → Merging Unit} (safe : ∀ id, IsSafe (inner id))
include safe

theorem fromList_safe (context : Mark) (items : List Nat) :
    IsSafe (fromList inner context items) := by
  induction items with
  | nil => exact .pure _
  | cons item rest ih =>
    refine .bind .get fun arena => .ite ?_ (complain_safe _ _ _)
    exact .bind (safe item) fun _ => .bind .get fun _ => .bind ih fun _ => .pure _

theorem fromValue_safe (context : Mark) (value : Nat) :
    IsSafe (fromValue inner context value) := by
  apply Keeps.bind .get
  intro arena
  simp only
  split
  · exact .bind (safe value) fun _ => .bind .get fun _ => .pure _
  · exact fromList_safe safe _ _
  · exact complain_safe _ _ _

theorem walk_safe (id fuel index : Nat) (merged : List (Nat × Nat)) :
    IsSafe (walk inner id fuel index merged) := by
  induction fuel generalizing index merged with
  | zero => exact .pure _
  | succ fuel ih =>
    apply Keeps.bind .get
    intro arena
    split
    · exact .pure _
    · split
      · apply Keeps.bind (.set trivial)
        intro _
        exact .bind (fromValue_safe safe _ _) fun _ => ih _ _
      · exact .bind (.set trivial) fun _ => ih _ _
      · exact ih _ _

end

theorem mergeInto_safe (room id : Nat) : IsSafe (mergeInto room id) := by
  induction room generalizing id with
  | zero => exact .throw tooDeep_known
  | succ room ih =>
    apply Keeps.bind .get
    intro arena
    apply Keeps.bind (walk_safe ih _ _ _ _)
    intro merged
    exact .ite (.update fun _ _ => trivial) (.pure _)

end Merging

namespace Building

/-- Building that fails only with what is known and keeps what holds of the fillings. -/
abbrev IsSafe {α : Type} (F : Array (Option Filling) → Prop) (x : Building α) : Prop :=
  Keeps (fun site => F site.fillings) IsKnown x

variable {F : Array (Option Filling) → Prop}

theorem complain_safe {α : Type} (context : Option Context) (place : Mark) (problem : Problem)
    (mark : Mark) : IsSafe F (complain context place problem mark : Building α) :=
  .throw (complaint_known _)

theorem nodeAt_safe (id : Nat) : IsSafe F (nodeAt id) := .bind .get fun _ => .pure _

theorem textOf_safe (room id : Nat) : IsSafe F (textOf room id) := by
  induction room generalizing id with
  | zero => exact .throw tooDeep_known
  | succ room ih =>
    apply Keeps.bind (nodeAt_safe id)
    intro n
    split
    · exact .pure _
    · apply Keeps.bind .get
      intro site
      simp only
      split
      · exact ih _
      · exact complain_safe _ _ _ _
    · exact complain_safe _ _ _ _

theorem scalarText_safe (id : Nat) : IsSafe F (scalarText id) :=
  .bind .get fun _ => textOf_safe _ id

theorem lift_safe {α : Type} {r : Except ScalarFault α}
    (stray : ∀ fault, r = .error fault → IsStray fault) : IsSafe F (lift r) := by
  cases r with
  | ok x => exact .pure x
  | error fault =>
    refine .throw fun fault' same => ?_
    cases same
    exact stray fault rfl

theorem binary_safe (id : Nat) : IsSafe F (binary id) := by
  apply Keeps.bind (scalarText_safe id)
  intro written
  split
  · exact .pure _
  · exact .bind (nodeAt_safe id) fun _ => complain_safe _ _ _ _

theorem timestamp_safe (id : Nat) : IsSafe F (timestamp id) := by
  apply Keeps.bind (scalarText_safe id)
  intro written
  apply Keeps.bind (nodeAt_safe id)
  intro n
  split
  · exact lift_safe fun _ refused => .timestamp refused
  · refine .throw fun fault same => ?_
    cases same
    exact .timestampOfMapping

theorem container_safe (id : Nat) : IsSafe F (container id) :=
  .get_bind fun _ kept => .ite (.pure _) (.bind (.set kept) fun _ => .pure _)

theorem part_safe (id : Nat) : IsSafe F (part id) := by
  apply Keeps.bind (nodeAt_safe id)
  intro n
  have text : IsSafe F (scalarText id) := scalarText_safe id
  split
  · exact .bind text fun _ => .pure _
  · exact .bind text fun _ => .bind (lift_safe fun _ refused => .bool refused) fun _ => .pure _
  · exact .bind text fun _ => .bind (lift_safe fun _ refused => .int refused) fun _ => .pure _
  · exact .bind text fun _ => .bind (lift_safe fun _ refused => .float refused) fun _ => .pure _
  · exact .bind text fun _ => .pure _
  · exact .bind (binary_safe id) fun _ => .pure _
  · exact .bind (timestamp_safe id) fun _ => .pure _
  · exact container_safe id
  · exact container_safe id
  · exact container_safe id
  · exact container_safe id
  · exact container_safe id
  · exact complain_safe _ _ _ _
  · exact complain_safe _ _ _ _
  · exact complain_safe _ _ _ _
  · exact complain_safe _ _ _ _

theorem items_safe (n : Node) : IsSafe F (items n) := by
  unfold items
  split
  · exact .mapM fun id _ => part_safe id
  · exact complain_safe _ _ _ _

theorem entriesFrom_safe (n : Node) (done : List (Scalar × Part)) (es : List (Nat × Nat)) :
    IsSafe F (entriesFrom n done es) := by
  induction es generalizing done with
  | nil => exact .pure _
  | cons e rest ih =>
    apply Keeps.bind (part_safe e.1)
    intro key
    split
    · exact .bind (nodeAt_safe e.1) fun _ => complain_safe _ _ _ _
    · exact .bind (part_safe e.2) fun _ => ih _

theorem merge_safe (id : Nat) : IsSafe F (merge id) := by
  refine .get_bind fun site kept => ?_
  have merged := Merging.mergeInto_safe site.room id site.arena trivial
  exact .bind (.lift merged) fun _ => .set kept

theorem entries_safe (id : Nat) (n : Node) : IsSafe F (entries id n) := by
  unfold entries
  split
  · exact .bind (merge_safe id) fun _ => .bind .get fun _ => entriesFrom_safe _ _ _
  · exact complain_safe _ _ _ _

theorem pairOf_safe (context : Context) (place : Mark) (id : Nat) :
    IsSafe F (pairOf context place id) := by
  apply Keeps.bind (nodeAt_safe id)
  intro n
  split
  · exact .bind (part_safe _) fun _ => .bind (part_safe _) fun _ => .pure _
  · exact complain_safe _ _ _ _
  · exact complain_safe _ _ _ _

theorem pairs_safe (context : Context) (n : Node) : IsSafe F (pairs context n) := by
  unfold pairs
  split
  · exact .mapM fun id _ => pairOf_safe context _ id
  · exact complain_safe _ _ _ _

theorem filling_safe (id : Nat) : IsSafe F (filling id) := by
  apply Keeps.bind (nodeAt_safe id)
  intro n
  split
  · exact .bind (entries_safe id n) fun _ => .pure _
  · exact .bind (entries_safe id n) fun _ => .pure _
  · exact .bind (pairs_safe _ n) fun _ => .pure _
  · exact .bind (pairs_safe _ n) fun _ => .pure _
  · exact .bind (items_safe n) fun _ => .pure _

end Building

def Filling.IsKeyed : Filling → Prop
  | .map entries => Value.DistinctKeys entries
  | _ => True

/-- All containers are filled with distinct keys, as far as they are filled. -/
def AreKeyed (fillings : Array (Option Filling)) : Prop :=
  ∀ id filling, fillings.getD id none = some filling → filling.IsKeyed

namespace Building

/-- Which key takes the place of which does not depend on the values. -/
theorem map_putPart (key : Scalar) (value : Part) (entries : List (Scalar × Part)) :
    (putPart key value entries).map (fun e => (e.1, Value.null))
      = Value.put key .null (entries.map fun e => (e.1, Value.null)) := by
  induction entries with
  | nil => rfl
  | cons e rest ih =>
    obtain ⟨k, old⟩ := e
    simp only [putPart, List.map_cons, Value.put]
    split
    · rfl
    · rw [List.map_cons, ih]

theorem distinctKeys_putPart {key : Scalar} {value : Part} {entries : List (Scalar × Part)}
    (distinct : Value.DistinctKeys entries) : Value.DistinctKeys (putPart key value entries) := by
  have blank (es : List (Scalar × Part)) :
      Value.DistinctKeys (es.map fun e => (e.1, Value.null)) ↔ Value.DistinctKeys es :=
    List.pairwise_map
  rw [← blank, map_putPart]
  exact Value.distinctKeys_put ((blank entries).mpr distinct)

theorem entriesFrom_returns (n : Node) (done : List (Scalar × Part)) (es : List (Nat × Nat))
    (distinct : Value.DistinctKeys done) : Returns Value.DistinctKeys (entriesFrom n done es) := by
  induction es generalizing done with
  | nil => exact .pure distinct
  | cons e rest ih =>
    refine .bind (.any _) fun key _ => ?_
    split
    · exact .bind (.any _) fun _ _ => .throw
    · exact .bind (.any _) fun value _ => ih _ (distinctKeys_putPart distinct)

theorem entries_returns (id : Nat) (n : Node) : Returns Value.DistinctKeys (entries id n) := by
  unfold entries
  split
  · exact .bind (.any _) fun _ _ => .bind (.any _) fun _ _ => entriesFrom_returns _ _ _ .nil
  · exact .throw

theorem filling_returns (id : Nat) : Returns Filling.IsKeyed (filling id) := by
  refine .bind (.any _) fun n _ => ?_
  split
  · exact .bind (entries_returns id n) fun _ distinct => .pure distinct
  all_goals exact .bind (.any _) fun _ _ => .pure trivial

theorem areKeyed_set {fillings : Array (Option Filling)} {id : Nat} {filled : Filling}
    (keyed : AreKeyed fillings) (good : filled.IsKeyed) :
    AreKeyed (fillings.setIfInBounds id (some filled)) := by
  intro other filling found
  rw [Array.getD_eq_getD_getElem?, Array.getElem?_setIfInBounds] at found
  split at found
  · split at found
    · cases found
      exact good
    · cases found
  · rw [← Array.getD_eq_getD_getElem?] at found
    exact keyed other filling found

theorem fillAll_safe (fuel : Nat) : IsSafe AreKeyed (fillAll fuel) := by
  induction fuel with
  | zero => exact .pure _
  | succ fuel ih =>
    apply Keeps.bind .get
    intro site
    split
    · exact .pure _
    · refine .bind (.update fun _ kept => kept) fun _ => ?_
      refine .bind_returning (filling_safe _) (filling_returns _) fun filled good => ?_
      exact .bind (.update fun _ kept => areKeyed_set kept good) fun _ => ih

end Building

theorem unfold_isKeyed {fillings : Array (Option Filling)} (keyed : AreKeyed fillings) (fuel : Nat)
    (around : List Nat) (id : Nat) : (unfold fillings fuel around id).value.isKeyed = true := by
  induction fuel generalizing around id with
  | zero => rfl
  | succ fuel ih =>
    rw [unfold]
    split
    · rfl
    · extract_lets inside whole
      have parts (p : Part) : (inside p).value.isKeyed = true := by
        cases p with
        | scalar s => rfl
        | container k => exact ih (id :: around) k
      have good : whole.value.isKeyed = true := by
        unfold whole
        split
        · simp only [Value.isKeyed, Value.itemsKeyed_iff, List.forall_mem_map]
          exact fun p _ => parts p
        · rename_i entries found
          have distinct : Value.DistinctKeys entries := keyed id _ found
          rw [Value.isKeyed, Value.entriesKeyed_iff]
          constructor
          · rw [Value.DistinctKeys, List.pairwise_map, List.pairwise_map]
            exact distinct
          · simp only [List.forall_mem_map]
            exact fun e _ => parts e.2
        · rfl
        · simp only [Value.isKeyed, Value.itemsKeyed_iff, List.forall_mem_map, Bool.and_eq_true]
          exact fun e _ => ⟨parts e.1, parts e.2⟩
        · rfl
      split <;> exact good

theorem build_yields (room : Nat) (arena : Arena) (root : Nat) :
    Yields IsKnown (fun v => v.isKeyed = true) (build room arena root) := by
  have empty : AreKeyed (Array.replicate arena.size none) := by
    intro id filling found
    rw [Array.getD_eq_getD_getElem?, Array.getElem?_replicate] at found
    split at found <;> cases found
  have safe : Building.IsSafe AreKeyed (do
      let p ← Building.part root
      Building.fillAll (arena.size + 1)
      return p) :=
    .bind (Building.part_safe root) fun _ => .bind (Building.fillAll_safe _) fun _ => .pure _
  refine (safe _ empty).bind fun built keyed => ?_
  obtain ⟨p, site⟩ := built
  cases p with
  | scalar s => exact .ok rfl
  | container id => exact .ok (unfold_isKeyed keyed _ _ _)

/-- What is read otherwise is a value all of whose mappings have distinct keys. -/
theorem read_yields (room : Nat) (t : Text) :
    Yields IsKnown (fun v => v.isKeyed = true) (read room t) := by
  unfold read
  split
  · refine .error fun fault same => ?_
    cases same
  · refine (compose_yields room t).bind fun composed _ => ?_
    obtain ⟨root?, arena⟩ := composed
    cases root? with
    | none => exact .ok rfl
    | some root => exact build_yields room arena root

end ExposureLint.Yaml
