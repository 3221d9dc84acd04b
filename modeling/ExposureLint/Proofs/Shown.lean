import Mathlib
import ExposureLint.Document.Display
import ExposureLint.Proofs.Outcome

/-!
When a value has a text. A scalar has one unless it is an integer beyond the limit on digits, and a
container has one just when the scalars that its text shows do and there is room for all containers
that stand in each other in it.
-/
namespace ExposureLint

theorem Numeral.ofInt?_cases (i : Int) :
    i.natAbs < tenTo digitLimit ∧ (∃ t, ofInt? i = .ok t)
      ∨ tenTo digitLimit ≤ i.natAbs ∧ ofInt? i = .error .unwritable := by
  rw [ofInt?]
  rcases Nat.lt_or_ge i.natAbs (tenTo digitLimit) with small | large
  · rw [if_neg (Nat.not_le.mpr small)]
    exact .inl ⟨small, _, rfl⟩
  · rw [if_pos large]
    exact .inr ⟨large, rfl⟩

theorem Numeral.ofInt?_eq_ok_iff {i : Int} {t : Text} :
    ofInt? i = .ok t ↔ i.natAbs < tenTo digitLimit ∧ t = Text.ofInt i := by
  rcases ofInt?_cases i with ⟨small, -⟩ | ⟨large, refused⟩
  · rw [ofInt?, if_neg (Nat.not_le.mpr small), Except.ok.injEq, eq_comm]
    exact (and_iff_right small).symm
  · rw [refused]
    exact iff_of_false (by simp) fun written => Nat.not_lt.mpr large written.1

namespace Scalar

/-- All scalars have texts but integers with too many digits. -/
def IsWritable : Scalar → Prop
  | .int i => i.natAbs < tenTo Numeral.digitLimit
  | _ => True

theorem isWritable_int {i : Int} :
    (int i).IsWritable ↔ i.natAbs < tenTo Numeral.digitLimit := Iff.rfl

theorem quoted?_int (i : Int) : (int i).quoted? = Numeral.ofInt? i := by
  rw [quoted?]

theorem exists_quoted?_iff (s : Scalar) : (∃ t, s.quoted? = .ok t) ↔ s.IsWritable := by
  cases s with
  | int i =>
    rw [quoted?_int]
    rcases Numeral.ofInt?_cases i with ⟨small, written⟩ | ⟨large, refused⟩
    · exact iff_of_true written small
    · rw [refused]
      exact iff_of_false (by simp) (Nat.not_lt.mpr large)
  | _ => simp [quoted?, IsWritable]

theorem quoted?_yields (s : Scalar) : FailsOnly (· = Numeral.Fault.unwritable) s.quoted? := by
  cases s with
  | int i =>
    rw [quoted?_int]
    rcases Numeral.ofInt?_cases i with ⟨-, t, written⟩ | ⟨-, refused⟩
    · rw [written]
      exact .ok trivial
    · rw [refused]
      exact .error rfl
  | _ => exact .ok trivial

/-- By itself a scalar has the text that it has inside another, or one that always exists. -/
theorem display?_cases (s : Scalar) :
    s.display? = s.quoted? ∨ s.IsWritable ∧ ∃ t, s.display? = .ok t := by
  cases s with
  | text t => exact .inr ⟨trivial, t, rfl⟩
  | date d => exact .inr ⟨trivial, d.text, rfl⟩
  | moment m => exact .inr ⟨trivial, m.text, rfl⟩
  | _ => exact .inl rfl

theorem exists_display?_iff (s : Scalar) : (∃ t, s.display? = .ok t) ↔ s.IsWritable := by
  rcases s.display?_cases with same | ⟨writable, shown⟩
  · rw [same, exists_quoted?_iff]
  · exact iff_of_true shown writable

theorem display?_yields (s : Scalar) : FailsOnly (· = Numeral.Fault.unwritable) s.display? := by
  rcases s.display?_cases with same | ⟨-, t, shown⟩
  · rw [same]
    exact s.quoted?_yields
  · rw [shown]
    exact .ok trivial

theorem display?_fails (s : Scalar) :
    FailsOnly (fun fault => fault = .unwritable ∧ ¬ s.IsWritable) s.display? := by
  cases shown : s.display? with
  | ok t => exact .ok trivial
  | error fault =>
    refine .error ⟨s.display?_yields.of_error shown, fun writable => ?_⟩
    obtain ⟨t, written⟩ := s.exists_display?_iff.mpr writable
    cases shown.symm.trans written

end Scalar

namespace Value

mutual

/-- The scalars that the text of a value shows, inside the containers labelled `around`. -/
def shownWithin (around : List Nat) : Value → List Scalar
  | .scalar s => [s]
  | .list items => shownItems around items
  | .pair first second => shownWithin around first ++ shownWithin around second
  | .map entries => shownEntries around entries
  | .set members => membersInOrder members
  | .labelled n body => if around.contains n then [] else shownWithin (n :: around) body
  | .ref _ => []

def shownItems (around : List Nat) : List Value → List Scalar
  | [] => []
  | x :: rest => shownWithin around x ++ shownItems around rest

def shownEntries (around : List Nat) : List (Scalar × Value) → List Scalar
  | [] => []
  | (k, x) :: rest => k :: shownWithin around x ++ shownEntries around rest

end

/-- The scalars that the text of a value shows; a container inside itself is shown once. -/
def shown (v : Value) : List Scalar := shownWithin [] v

theorem contains_map_fst (around : Around) (n : Nat) :
    (around.map (·.1)).contains n = (around.lookup n).isSome := by
  induction around with
  | nil => rfl
  | cons head rest ih =>
    rw [List.map_cons, List.contains_cons, List.lookup_cons, ih]
    cases n == head.1 <;> rfl

mutual

/-- How many containers stand in each other in the text of a value, inside those labelled `around`.
-/
def depthWithin (around : List Nat) : Value → Nat
  | .scalar _ => 0
  | .list items => depthOfItems around items + 1
  | .pair first second => max (depthWithin around first) (depthWithin around second) + 1
  | .map entries => depthOfEntries around entries + 1
  | .set _ => 1
  | .labelled n body => if around.contains n then 0 else depthWithin (n :: around) body
  | .ref _ => 0

def depthOfItems (around : List Nat) : List Value → Nat
  | [] => 0
  | x :: rest => max (depthWithin around x) (depthOfItems around rest)

def depthOfEntries (around : List Nat) : List (Scalar × Value) → Nat
  | [] => 0
  | (_, x) :: rest => max (depthWithin around x) (depthOfEntries around rest)

end

def depth (v : Value) : Nat := depthWithin [] v

/-- What can be told in some room: the scalars `told` in containers `deep` deep. -/
def IsTellable (told : List Scalar) (deep room : Nat) : Prop :=
  (∀ s ∈ told, s.IsWritable) ∧ deep ≤ room

inductive Fault.Arises (told : List Scalar) (deep room : Nat) : Fault → Prop
  | number {s : Scalar} (shown : s ∈ told) (long : ¬ s.IsWritable) :
    Arises told deep room (.number .unwritable)
  | tooDeep (beyond : room < deep) : Arises told deep room .tooDeep

section
variable {told told' : List Scalar} {deep deep' room : Nat}

@[simp] theorem isTellable_append : IsTellable (told ++ told') (max deep deep') room
    ↔ IsTellable told deep room ∧ IsTellable told' deep' room := by
  simp only [IsTellable, List.forall_mem_append, Nat.max_le]
  tauto

theorem Fault.Arises.mono {f : Fault} (arises : Arises told deep room f) (more : told ⊆ told')
    (deeper : deep ≤ deep') : Arises told' deep' room f := by
  cases arises with
  | number shown long => exact .number (more shown) long
  | tooDeep beyond => exact .tooDeep (beyond.trans_le deeper)

theorem both_yields {α β γ : Type} {x : Except Fault α} {y : Except Fault β} {f : α → β → γ}
    (first : FailsOnly (Fault.Arises told deep room) x)
    (second : FailsOnly (Fault.Arises told' deep' room) y) :
    FailsOnly (Fault.Arises (told ++ told') (max deep deep') room)
      (do let a ← x; let b ← y; return f a b) := by
  refine (first.allow fun _ arises => ?_).bind fun _ _ =>
    (second.allow fun _ arises => ?_).bind fun _ _ => .ok trivial
  · exact arises.mono (List.subset_append_left told told') (Nat.le_max_left deep deep')
  · exact arises.mono (List.subset_append_right told told') (Nat.le_max_right deep deep')

theorem exists_inside_iff {tell : Nat → Except Fault Text}
    (each : ∀ rest, (∃ t, tell rest = .ok t) ↔ IsTellable told deep rest) :
    (∃ t, inside room tell = .ok t) ↔ IsTellable told (deep + 1) room := by
  cases room with
  | zero => simp [inside, IsTellable]
  | succ rest => simp only [inside, each, IsTellable, Nat.add_le_add_iff_right]

theorem told_of_inside {tell : Nat → Except Fault Text} {t : Text}
    (written : inside room tell = .ok t) : ∃ rest, tell rest = .ok t := by
  cases room with
  | zero => cases written
  | succ rest => exact ⟨rest, written⟩

theorem inside_yields {tell : Nat → Except Fault Text}
    (each : ∀ rest, FailsOnly (Fault.Arises told deep rest) (tell rest)) :
    FailsOnly (Fault.Arises told (deep + 1) room) (inside room tell) := by
  cases room with
  | zero => exact .error (.tooDeep (Nat.succ_pos deep))
  | succ rest =>
    refine (each rest).allow fun f arises => ?_
    cases arises with
    | number shown long => exact .number shown long
    | tooDeep beyond => exact .tooDeep (Nat.succ_lt_succ beyond)

end

theorem exists_setText_iff (members : List Scalar) :
    (∃ t, setText members = .ok t) ↔ ∀ s ∈ membersInOrder members, s.IsWritable := by
  simp only [setText, map_eq_ok_iff, ← Scalar.exists_quoted?_iff, ← exists_mapM_eq_ok_iff]
  constructor
  · rintro ⟨_, texts, all, _⟩
    exact ⟨texts, all⟩
  · rintro ⟨texts, all⟩
    exact ⟨_, texts, all, rfl⟩

mutual

theorem exists_quotedWithin_iff (around : Around) (room : Nat) (v : Value) :
    (∃ t, quotedWithin around room v = .ok t)
      ↔ IsTellable (shownWithin (around.map (·.1)) v) (depthWithin (around.map (·.1)) v) room := by
  cases v with
  | scalar s =>
    simp [quotedWithin, shownWithin, depthWithin, IsTellable, mapError_eq_ok_iff,
      Scalar.exists_quoted?_iff]
  | list items =>
    refine exists_inside_iff fun rest => ?_
    simp [shownWithin, bind_eq_ok_iff, ← exists_quotedItems_iff around rest items, pure,
      Except.pure]
  | pair first second =>
    refine exists_inside_iff fun rest => ?_
    simp [shownWithin, bind_eq_ok_iff, ← exists_quotedWithin_iff around rest first,
      ← exists_quotedWithin_iff around rest second, pure, Except.pure]
  | map entries =>
    refine exists_inside_iff fun rest => ?_
    simp [shownWithin, bind_eq_ok_iff, ← exists_quotedEntries_iff around rest entries, pure,
      Except.pure]
  | set members =>
    refine exists_inside_iff fun rest => ?_
    simp [shownWithin, mapError_eq_ok_iff, exists_setText_iff, IsTellable]
  | labelled n body =>
    simp only [quotedWithin, shownWithin, depthWithin, contains_map_fst]
    cases around.lookup n with
    | some cut => simp [IsTellable]
    | none => exact exists_quotedWithin_iff ((n, cutText body) :: around) room body
  | ref n => simp [quotedWithin, shownWithin, depthWithin, IsTellable]

theorem exists_quotedItems_iff (around : Around) (room : Nat) (items : List Value) :
    (∃ ts, quotedItems around room items = .ok ts)
      ↔ IsTellable (shownItems (around.map (·.1)) items) (depthOfItems (around.map (·.1)) items)
        room := by
  cases items with
  | nil => simp [quotedItems, shownItems, depthOfItems, IsTellable]
  | cons x rest =>
    simp only [quotedItems, shownItems, depthOfItems, bind_eq_ok_iff, isTellable_append,
      ← exists_quotedWithin_iff around room x, ← exists_quotedItems_iff around room rest]
    simp [pure, Except.pure]

theorem exists_quotedEntries_iff (around : Around) (room : Nat) (entries : List (Scalar × Value)) :
    (∃ ts, quotedEntries around room entries = .ok ts)
      ↔ IsTellable (shownEntries (around.map (·.1)) entries)
        (depthOfEntries (around.map (·.1)) entries) room := by
  match entries with
  | [] => simp [quotedEntries, shownEntries, depthOfEntries, IsTellable]
  | (k, x) :: rest =>
    have key : IsTellable (k :: shownWithin (around.map (·.1)) x)
        (depthWithin (around.map (·.1)) x) room
        ↔ k.IsWritable ∧ IsTellable (shownWithin (around.map (·.1)) x)
          (depthWithin (around.map (·.1)) x) room := by
      simp only [IsTellable, List.forall_mem_cons, and_assoc]
    simp only [quotedEntries, shownEntries, depthOfEntries, bind_eq_ok_iff, isTellable_append, key,
      mapError_eq_ok_iff, ← exists_quotedWithin_iff around room x,
      ← exists_quotedEntries_iff around room rest, ← k.exists_quoted?_iff]
    simp [pure, Except.pure, and_assoc]

end

/-- What tells scalars only has a text when all of them do, and fails of one that does not. -/
theorem scalars_yields {told : List Scalar} {deep room : Nat} {r : Except Numeral.Fault Text}
    (fails : FailsOnly (· = Numeral.Fault.unwritable) r)
    (written : (∃ t, r = .ok t) ↔ ∀ s ∈ told, s.IsWritable) :
    FailsOnly (Fault.Arises told deep room) (r.mapError .number) := by
  cases r with
  | ok t => exact .ok trivial
  | error fault =>
    obtain rfl := fails.of_error rfl
    have unwritten : ¬ ∀ s ∈ told, s.IsWritable := fun all => by simpa using written.mpr all
    push Not at unwritten
    obtain ⟨s, shown, long⟩ := unwritten
    exact .error (.number shown long)

theorem quoted?_arises {told : List Scalar} {deep room : Nat} {s : Scalar} (shown : s ∈ told) :
    FailsOnly (Fault.Arises told deep room) (s.quoted?.mapError .number) := by
  have alone : FailsOnly (Fault.Arises [s] deep room) (s.quoted?.mapError .number) :=
    scalars_yields s.quoted?_yields (by simpa using s.exists_quoted?_iff)
  exact alone.allow fun _ arises => arises.mono (by simpa using shown) (Nat.le_refl deep)

mutual

theorem quotedWithin_yields (around : Around) (room : Nat) (v : Value) :
    FailsOnly (Fault.Arises (shownWithin (around.map (·.1)) v)
      (depthWithin (around.map (·.1)) v) room) (quotedWithin around room v) := by
  cases v with
  | scalar s => exact quoted?_arises (List.mem_singleton_self s)
  | list items =>
    refine inside_yields fun rest => ?_
    exact (quotedItems_yields around rest items).bind fun _ _ => .ok trivial
  | pair first second =>
    refine inside_yields fun rest => ?_
    exact both_yields (quotedWithin_yields around rest first)
      (quotedWithin_yields around rest second)
  | map entries =>
    refine inside_yields fun rest => ?_
    exact (quotedEntries_yields around rest entries).bind fun _ _ => .ok trivial
  | set members =>
    refine inside_yields fun rest => ?_
    have each := Yields.mapM (R := fun _ => True) fun s (_ : s ∈ membersInOrder members) =>
      s.quoted?_yields
    exact scalars_yields (each.map fun _ _ => trivial) (exists_setText_iff members)
  | labelled n body =>
    simp only [quotedWithin, shownWithin, depthWithin, contains_map_fst]
    cases around.lookup n with
    | some cut => exact .ok trivial
    | none => exact quotedWithin_yields ((n, cutText body) :: around) room body
  | ref n => exact .ok trivial

theorem quotedItems_yields (around : Around) (room : Nat) (items : List Value) :
    FailsOnly (Fault.Arises (shownItems (around.map (·.1)) items)
      (depthOfItems (around.map (·.1)) items) room) (quotedItems around room items) := by
  cases items with
  | nil => exact .ok trivial
  | cons x rest =>
    exact both_yields (quotedWithin_yields around room x) (quotedItems_yields around room rest)

theorem quotedEntries_yields (around : Around) (room : Nat) (entries : List (Scalar × Value)) :
    FailsOnly (Fault.Arises (shownEntries (around.map (·.1)) entries)
      (depthOfEntries (around.map (·.1)) entries) room) (quotedEntries around room entries) := by
  match entries with
  | [] => exact .ok trivial
  | (k, x) :: rest =>
    refine Yields.bind (quoted?_arises List.mem_cons_self) fun t _ => ?_
    have both := both_yields (f := fun text texts => (t ++ ": " ++ text) :: texts)
      (quotedWithin_yields around room x) (quotedEntries_yields around room rest)
    exact both.allow fun _ arises => arises.mono (List.subset_cons_self k _) (Nat.le_refl _)

end

theorem exists_displayWithin_iff (room : Nat) (v : Value) :
    (∃ t, v.displayWithin room = .ok t) ↔ IsTellable v.shown v.depth room := by
  cases v with
  | scalar s =>
    have told : IsTellable (scalar s).shown (scalar s).depth room ↔ s.IsWritable := by
      simp [shown, shownWithin, depth, depthWithin, IsTellable]
    rw [told, ← s.exists_display?_iff]
    simp only [displayWithin, mapError_eq_ok_iff]
  | _ => exact exists_quotedWithin_iff [] room _

theorem displayWithin_yields (room : Nat) (v : Value) :
    FailsOnly (Fault.Arises v.shown v.depth room) (v.displayWithin room) := by
  cases v with
  | scalar s =>
    exact scalars_yields s.display?_yields
      (by simpa [shown, shownWithin] using s.exists_display?_iff)
  | _ => exact quotedWithin_yields [] room _

section
variable [Host]

theorem exists_display?_iff (v : Value) :
    (∃ t, v.display? = .ok t) ↔ IsTellable v.shown v.depth (Host.tellingRoom v) :=
  v.exists_displayWithin_iff _

theorem display?_yields (v : Value) :
    FailsOnly (Fault.Arises v.shown v.depth (Host.tellingRoom v)) v.display? :=
  v.displayWithin_yields _

end

mutual

/-- The scalars in a value, keys included. -/
def scalars : Value → List Scalar
  | .scalar s => [s]
  | .list items => scalarsOfItems items
  | .pair first second => scalars first ++ scalars second
  | .map entries => scalarsOfEntries entries
  | .set members => members
  | .labelled _ body => scalars body
  | .ref _ => []

def scalarsOfItems : List Value → List Scalar
  | [] => []
  | x :: rest => scalars x ++ scalarsOfItems rest

def scalarsOfEntries : List (Scalar × Value) → List Scalar
  | [] => []
  | (k, x) :: rest => k :: scalars x ++ scalarsOfEntries rest

end

def IsWritable (v : Value) : Prop := ∀ s ∈ v.scalars, s.IsWritable

theorem scalarsOfItems_eq (items : List Value) : scalarsOfItems items = items.flatMap scalars := by
  induction items with
  | nil => rfl
  | cons x rest ih => rw [scalarsOfItems, ih, List.flatMap_cons]

theorem scalarsOfEntries_eq (entries : List (Scalar × Value)) :
    scalarsOfEntries entries = entries.flatMap fun e => e.1 :: scalars e.2 := by
  induction entries with
  | nil => rfl
  | cons e rest ih => rw [scalarsOfEntries, ih, List.flatMap_cons]

theorem mem_insert {places : Places} {remainder : Int} {member s : Scalar}
    (inside : some s ∈ places.insert remainder member) : s = member ∨ some s ∈ places := by
  unfold Places.insert at inside
  simp only at inside
  split at inside
  · rename_i position found
    rcases Array.mem_or_eq_of_mem_setIfInBounds inside with old | new
    · exact .inr old
    · exact .inl (Option.some.inj new)
  · exact .inr inside

theorem mem_foldl_insert {told : List (Int × Scalar)} {places : Places} {s : Scalar}
    (inside : some s ∈ told.foldl (fun places m => places.insert m.1 m.2) places) :
    (∃ m ∈ told, s = m.2) ∨ some s ∈ places := by
  induction told generalizing places with
  | nil => exact .inr inside
  | cons m rest ih =>
    rcases ih inside with ⟨m', later, same⟩ | early
    · exact .inl ⟨m', List.mem_cons_of_mem m later, same⟩
    · rcases mem_insert early with same | old
      · exact .inl ⟨m, List.mem_cons_self, same⟩
      · exact .inr old

theorem membersInOrder_subset (members : List Scalar) : membersInOrder members ⊆ members := by
  intro s told
  unfold membersInOrder at told
  split at told
  · exact told
  · rename_i remainders _
    simp only [List.mem_filterMap, id_eq, exists_eq_right, Array.mem_toList_iff] at told
    rcases mem_foldl_insert told with ⟨m, paired, rfl⟩ | empty
    · exact (List.of_mem_zip paired).2
    · simp [Array.mem_replicate] at empty

section
variable {p : Scalar → Prop}

mutual

theorem shownWithin_all (around : List Nat) (v : Value) (all : ∀ s ∈ v.scalars, p s) :
    ∀ s ∈ shownWithin around v, p s := by
  cases v with
  | scalar s => exact all
  | list items => exact shownItems_all around items all
  | pair first second =>
    obtain ⟨left, right⟩ := List.forall_mem_append.mp all
    exact List.forall_mem_append.mpr
      ⟨shownWithin_all around first left, shownWithin_all around second right⟩
  | map entries => exact shownEntries_all around entries all
  | set members => exact fun s told => all s (membersInOrder_subset members told)
  | labelled n body =>
    rw [shownWithin]
    split
    · exact fun s none => absurd none List.not_mem_nil
    · exact shownWithin_all (n :: around) body all
  | ref n => exact all

theorem shownItems_all (around : List Nat) (items : List Value)
    (all : ∀ s ∈ scalarsOfItems items, p s) : ∀ s ∈ shownItems around items, p s := by
  cases items with
  | nil => exact all
  | cons x rest =>
    obtain ⟨first, others⟩ := List.forall_mem_append.mp all
    exact List.forall_mem_append.mpr
      ⟨shownWithin_all around x first, shownItems_all around rest others⟩

theorem shownEntries_all (around : List Nat) (entries : List (Scalar × Value))
    (all : ∀ s ∈ scalarsOfEntries entries, p s) : ∀ s ∈ shownEntries around entries, p s := by
  match entries with
  | [] => exact all
  | (k, x) :: rest =>
    obtain ⟨first, others⟩ := List.forall_mem_append.mp all
    obtain ⟨key, value⟩ := List.forall_mem_cons.mp first
    exact List.forall_mem_append.mpr ⟨List.forall_mem_cons.mpr
      ⟨key, shownWithin_all around x value⟩, shownEntries_all around rest others⟩

end

mutual

theorem scalars_subst_all (n : Nat) (w v : Value) (inner : ∀ s ∈ w.scalars, p s)
    (all : ∀ s ∈ v.scalars, p s) : ∀ s ∈ (subst n w v).scalars, p s := by
  cases v with
  | scalar s => exact all
  | list items => exact scalarsOfItems_subst_all n w items inner all
  | pair first second =>
    obtain ⟨left, right⟩ := List.forall_mem_append.mp all
    exact List.forall_mem_append.mpr
      ⟨scalars_subst_all n w first inner left, scalars_subst_all n w second inner right⟩
  | map entries => exact scalarsOfEntries_subst_all n w entries inner all
  | set members => exact all
  | labelled k body =>
    rw [subst]
    split
    · exact all
    · exact scalars_subst_all n w body inner all
  | ref k =>
    rw [subst]
    split
    · exact inner
    · exact all

theorem scalarsOfItems_subst_all (n : Nat) (w : Value) (items : List Value)
    (inner : ∀ s ∈ w.scalars, p s) (all : ∀ s ∈ scalarsOfItems items, p s) :
    ∀ s ∈ scalarsOfItems (substItems n w items), p s := by
  cases items with
  | nil => exact all
  | cons x rest =>
    obtain ⟨first, others⟩ := List.forall_mem_append.mp all
    exact List.forall_mem_append.mpr
      ⟨scalars_subst_all n w x inner first, scalarsOfItems_subst_all n w rest inner others⟩

theorem scalarsOfEntries_subst_all (n : Nat) (w : Value) (entries : List (Scalar × Value))
    (inner : ∀ s ∈ w.scalars, p s) (all : ∀ s ∈ scalarsOfEntries entries, p s) :
    ∀ s ∈ scalarsOfEntries (substEntries n w entries), p s := by
  match entries with
  | [] => exact all
  | (k, x) :: rest =>
    obtain ⟨first, others⟩ := List.forall_mem_append.mp all
    obtain ⟨key, value⟩ := List.forall_mem_cons.mp first
    exact List.forall_mem_append.mpr ⟨List.forall_mem_cons.mpr
      ⟨key, scalars_subst_all n w x inner value⟩,
      scalarsOfEntries_subst_all n w rest inner others⟩

end

variable {v : Value} (all : ∀ s ∈ v.scalars, p s)
include all

theorem shown_all : ∀ s ∈ v.shown, p s := shownWithin_all [] v all

theorem unfold_all : ∀ s ∈ v.unfold.scalars, p s := by
  cases v with
  | labelled n body => exact scalars_subst_all n (.labelled n body) body all all
  | _ => exact all

theorem entries?_all {entries : List (Scalar × Value)} (mapping : v.entries? = some entries) :
    ∀ e ∈ entries, p e.1 ∧ ∀ s ∈ e.2.scalars, p s := by
  have inside := unfold_all all
  unfold entries? at mapping
  split at mapping
  · rename_i found same
    cases mapping
    rw [same, scalars, scalarsOfEntries_eq] at inside
    intro e he
    have here (s : Scalar) (hs : s ∈ e.1 :: e.2.scalars) : p s :=
      inside s (List.mem_flatMap.mpr ⟨e, he, hs⟩)
    exact List.forall_mem_cons.mp here
  · cases mapping

theorem items?_all {items : List Value} (listed : v.items? = some items) :
    ∀ x ∈ items, ∀ s ∈ x.scalars, p s := by
  have inside := unfold_all all
  unfold items? at listed
  split at listed
  · rename_i found same
    cases listed
    rw [same, scalars, scalarsOfItems_eq] at inside
    exact fun x hx s hs => inside s (List.mem_flatMap.mpr ⟨x, hx, hs⟩)
  · cases listed

end

end Value
end ExposureLint
