import Mathlib
import ExposureLint.Proofs.Tellable
import ExposureLint.Proofs.Toleration

/-!
What decides where a description is found. In a directory it is the first of the names that a file
has, and nothing else in the tree has a part in it, nor in what comes of the project. Only a name
whose path is too long stands in the way: asking for it is a mishap, whatever may be found later.
-/
namespace ExposureLint

namespace Path
variable {t : Text} {p : Path} {name : Text}

theorem unnameable?_eq_none_iff : unnameable? t = none
    ↔ (∀ c ∈ t, c.isSurrogate = false ∨ isLoneByte c = true) ∧ CodePoint.nul ∉ t := by
  unfold unnameable?
  rw [← Utf8.unwritableBut?_eq_none_iff]
  split <;> simp_all

theorem forall_mem_child_text {P : CodePoint → Prop} (slash : P '/') (above : ∀ c ∈ p.text, P c)
    (named : ∀ c ∈ name, P c) : ∀ c ∈ (p.child name).text, P c := by
  have clean : ∀ c ∈ Text.ofString "/", P c := by
    simpa [Text.ofString] using slash
  have written : (p.child name).text = p.root ++ Text.join "/" (p.parts ++ [name]) := by
    simp [text, child]
  rw [written, List.forall_mem_append, Text.forall_mem_join clean, List.forall_mem_append,
    List.forall_mem_singleton]
  unfold text at above
  split at above
  · rename_i bare
    simp only [Bool.and_eq_true, List.isEmpty_iff] at bare
    simpa [bare] using named
  · rw [List.forall_mem_append, Text.forall_mem_join clean] at above
    exact ⟨above.1, above.2, named⟩

theorem unnameable?_child (above : unnameable? p.text = none) (named : unnameable? name = none) :
    unnameable? (p.child name).text = none := by
  rw [unnameable?_eq_none_iff] at above named ⊢
  refine ⟨forall_mem_child_text (.inl rfl) above.1 named.1, fun there => ?_⟩
  refine forall_mem_child_text (P := fun c => c ≠ CodePoint.nul) (by decide) ?_ ?_ _ there rfl
  · rintro c inside rfl
    exact above.2 inside
  · rintro c inside rfl
    exact named.2 inside

end Path

namespace Disk
variable {disk : Disk} {start place : Place} {parts more : List Text} {root name : Text} {p : Path}

theorem follow_append (found : disk.follow start parts = .found place .directory) :
    disk.follow start (parts ++ more) = disk.follow place more := by
  induction parts generalizing start with
  | nil =>
    simp only [follow] at found
    split at found
    · cases found
      rfl
    · cases found
  | cons q rest ih =>
    rw [List.cons_append]
    simp only [follow] at found ⊢
    split at found
    · split at found
      · cases found
      · rename_i short
        simp only [if_neg short]
        exact ih found
    · cases found
    · cases found

/-- What parts are found to lead to stands where they climb. -/
theorem follow_found {e : Entry} (found : disk.follow start parts = .found place e) :
    place = Path.climbed start parts ∧ disk.entryAt place = some e := by
  induction parts generalizing start with
  | nil =>
    simp only [follow] at found
    split at found
    · rename_i there
      cases found
      exact ⟨rfl, there⟩
    · cases found
  | cons q rest ih =>
    simp only [follow] at found
    split at found
    · split at found
      · cases found
      · exact ih found
    · cases found
    · cases found

structure IsName (name : Text) : Prop where
  nameable : Path.unnameable? name = none
  short : Path.sizeOf name ≤ Path.partLimit
  proper : name ≠ Path.dots

theorem isName_of_mem (listed : name ∈ specNames) : IsName name := by
  have all : ∀ name ∈ specNames, Path.unnameable? name = none
      ∧ Path.sizeOf name ≤ Path.partLimit ∧ name ≠ Path.dots := by decide +kernel
  obtain ⟨nameable, short, proper⟩ := all name listed
  exact ⟨nameable, short, proper⟩

/-- A name in a directory leads to what is there under that name, if its path is not too long. -/
theorem status_child (found : disk.status p = .found place .directory) (isName : IsName name) :
    disk.status (p.child name)
      = if Path.limit < Path.sizeOf (p.child name).text then .tooLong
        else disk.follow (place ++ [name]) [] := by
  unfold status at found
  split at found
  · cases found
  · rename_i nameable
    split at found
    · cases found
    · have isDirectory := (follow_found found).2
      have below : disk.follow place [name] = disk.follow (place ++ [name]) [] := by
        simp only [follow, isDirectory, if_neg (Nat.not_lt.mpr isName.short), beq_iff_eq,
          if_neg isName.proper]
      rewrite [status, Path.unnameable?_child nameable isName.nameable, ← below,
        ← follow_append found]
      rfl

def fileAt? (d : Disk) (place : Place) : Option (List UInt8) :=
  match d.entryAt place with
  | some (.file content) => some content
  | _ => none

theorem isFile_child (found : disk.status p = .found place .directory) (isName : IsName name) :
    disk.isFile (p.child name)
      = if Path.limit < Path.sizeOf (p.child name).text then .error (.tooLong (p.child name))
        else .ok (disk.fileAt? (place ++ [name])).isSome := by
  rw [isFile, leadsTo, status_child found isName, fileAt?, follow]
  split_ifs with long
  · rfl
  · rcases disk.entryAt (place ++ [name]) with none | content | directory <;> rfl

theorem readBytes_child {content : List UInt8} (found : disk.status p = .found place .directory)
    (isName : IsName name) (short : Path.sizeOf (p.child name).text ≤ Path.limit)
    (held : disk.fileAt? (place ++ [name]) = some content) :
    disk.readBytes (p.child name) = .ok content := by
  unfold fileAt? at held
  split at held
  · rename_i file
    cases held
    rw [readBytes, status_child found isName, if_neg (Nat.not_lt.mpr short), follow, file]
  · cases held

structure IsProject (d : Disk) (root : Text) : Prop where
  resolved : d.resolve (Path.ofText root) = .ok (d.projectAt root)
  there : d.holds Entry.isDirectory (d.projectAt root) = true

def site (d : Disk) (root : Text) : Place := d.placeOf (d.projectAt root)

def named? (d : Disk) (root name : Text) : Option (List UInt8) := d.fileAt? (d.site root ++ [name])

/-- The first of some names that a file in the directory of a project has, with its content. -/
def firstOf? (d : Disk) (root : Text) (names : List Text) : Option (Text × List UInt8) :=
  names.findSome? fun name => (d.named? root name).map fun content => (name, content)

/-- The file that is the description of a project. -/
def firstFile? (d : Disk) (root : Text) : Option (Text × List UInt8) := d.firstOf? root specNames

def HasRoomFor (d : Disk) (root name : Text) : Prop :=
  Path.sizeOf ((d.projectAt root).child name).text ≤ Path.limit

/-- The names up to the first that a file has, and this one, have room. -/
def ReachesFirst (d : Disk) (root : Text) (names : List Text) : Prop :=
  ∀ name ∈ names.take (names.findIdx (fun name => (d.named? root name).isSome) + 1),
    d.HasRoomFor root name

instance (d : Disk) (root : Text) : Decidable (d.IsProject root) :=
  decidable_of_iff ((d.resolve (Path.ofText root)).toOption = some (d.projectAt root)
      ∧ d.holds Entry.isDirectory (d.projectAt root) = true)
    ⟨fun ⟨resolved, there⟩ => ⟨toOption_eq_some_iff.mp resolved, there⟩,
      fun h => ⟨toOption_eq_some_iff.mpr h.resolved, h.there⟩⟩

instance (d : Disk) (root name : Text) : Decidable (d.HasRoomFor root name) :=
  inferInstanceAs (Decidable (_ ≤ _))

instance (d : Disk) (root : Text) (names : List Text) : Decidable (d.ReachesFirst root names) :=
  inferInstanceAs (Decidable (∀ _ ∈ _, _))

theorem IsProject.status (isProject : disk.IsProject root) :
    disk.status (disk.projectAt root) = .found (disk.site root) .directory := by
  have there := isProject.there
  unfold holds at there
  split at there
  · rename_i place e found
    obtain rfl : e = .directory := by
      cases e with
      | directory => rfl
      | file content => cases there
    have followed := found
    unfold Disk.status at followed
    split at followed
    · cases followed
    · split at followed
      · cases followed
      · rw [found, (follow_found followed).1]
        rfl
  · cases there

theorem IsProject.isFile (isProject : disk.IsProject root) (listed : name ∈ specNames) :
    disk.isFile ((disk.projectAt root).child name)
      = if Path.limit < Path.sizeOf ((disk.projectAt root).child name).text then
          .error (.tooLong ((disk.projectAt root).child name))
        else .ok (disk.named? root name).isSome :=
  isFile_child isProject.status (isName_of_mem listed)

theorem reachesFirst_cons_iff {rest : List Text} : disk.ReachesFirst root (name :: rest)
    ↔ disk.HasRoomFor root name
      ∧ (disk.named? root name = none → disk.ReachesFirst root rest) := by
  unfold ReachesFirst
  rw [List.findIdx_cons]
  cases held : disk.named? root name with
  | some content => simp
  | none => simp

/-- Asking for some names in their order gives the first that a file has. -/
theorem findM?_of_reachesFirst {names : List Text} (isProject : disk.IsProject root)
    (listed : names ⊆ specNames) (reaches : disk.ReachesFirst root names) :
    (names.map (disk.projectAt root).child).findM? disk.isFile
      = .ok ((disk.firstOf? root names).map fun first => (disk.projectAt root).child first.1) := by
  induction names with
  | nil => rfl
  | cons name rest ih =>
    obtain ⟨here, others⟩ := List.cons_subset.mp listed
    obtain ⟨room, next⟩ := reachesFirst_cons_iff.mp reaches
    rw [List.map_cons, List.findM?, isProject.isFile here, if_neg (Nat.not_lt.mpr room), firstOf?,
      List.findSome?_cons]
    cases held : disk.named? root name with
    | some content => rfl
    | none => exact ih others (next held)

/-- Where the first name is not reached, asking stops at one whose path is too long. -/
theorem findM?_of_not_reachesFirst {names : List Text} (isProject : disk.IsProject root)
    (listed : names ⊆ specNames) (blocked : ¬ disk.ReachesFirst root names) :
    ∃ name ∈ names, ¬ disk.HasRoomFor root name
      ∧ (names.map (disk.projectAt root).child).findM? disk.isFile
        = .error (.tooLong ((disk.projectAt root).child name)) := by
  induction names with
  | nil => exact absurd (by simp [ReachesFirst]) blocked
  | cons name rest ih =>
    obtain ⟨here, others⟩ := List.cons_subset.mp listed
    rw [reachesFirst_cons_iff] at blocked
    rw [List.map_cons, List.findM?, isProject.isFile here]
    by_cases room : disk.HasRoomFor root name
    · obtain ⟨held, further⟩ := Classical.not_imp.mp fun next => blocked ⟨room, next⟩
      obtain ⟨other, among, long, failed⟩ := ih others further
      rw [if_neg (Nat.not_lt.mpr room), held]
      exact ⟨other, List.mem_cons_of_mem name among, long, failed⟩
    · rw [if_pos (Nat.lt_of_not_le room)]
      exact ⟨name, List.mem_cons_self, room, rfl⟩

variable {other : Disk}

theorem held_of_firstOf? {names : List Text} {content : List UInt8}
    (first : disk.firstOf? root names = some (name, content)) :
    name ∈ names ∧ disk.named? root name = some content := by
  obtain ⟨asked, among, held⟩ := List.exists_of_findSome?_eq_some first
  obtain ⟨content', held, same⟩ := Option.map_eq_some_iff.mp held
  cases same
  exact ⟨among, held⟩

theorem findM?_isFile_congr {names : List Text} (isProject : disk.IsProject root)
    (isProject' : other.IsProject root) (sameRoot : other.projectAt root = disk.projectAt root)
    (listed : names ⊆ specNames) (sameFirst : other.firstOf? root names = disk.firstOf? root names) :
    (names.map (other.projectAt root).child).findM? other.isFile
      = (names.map (disk.projectAt root).child).findM? disk.isFile := by
  induction names with
  | nil => rfl
  | cons name rest ih =>
    obtain ⟨here, others⟩ := List.cons_subset.mp listed
    rw [List.map_cons, List.map_cons, List.findM?, List.findM?, isProject'.isFile here,
      isProject.isFile here, sameRoot]
    split_ifs with long
    · rfl
    · have first (d : Disk) : d.firstOf? root (name :: rest)
          = ((d.named? root name).map fun content => (name, content)).or (d.firstOf? root rest) := by
        rw [firstOf?, List.findSome?_cons]
        cases d.named? root name <;> rfl
      rw [first, first] at sameFirst
      cases held : disk.named? root name with
      | some content =>
        cases held' : other.named? root name with
        | some content' => rfl
        | none =>
          rw [held, held'] at sameFirst
          cases held'.symm.trans (held_of_firstOf? sameFirst).2
      | none =>
        cases held' : other.named? root name with
        | some content' =>
          rw [held, held'] at sameFirst
          cases held.symm.trans (held_of_firstOf? sameFirst.symm).2
        | none =>
          rw [held, held'] at sameFirst
          have later := ih others sameFirst
          rw [sameRoot] at later
          exact later

theorem hasRoomFor_of_firstOf? {names : List Text} {content : List UInt8}
    (reaches : disk.ReachesFirst root names)
    (first : disk.firstOf? root names = some (name, content)) : disk.HasRoomFor root name := by
  induction names with
  | nil => cases first
  | cons asked rest ih =>
    obtain ⟨room, next⟩ := reachesFirst_cons_iff.mp reaches
    rw [firstOf?, List.findSome?_cons] at first
    cases held : disk.named? root asked with
    | some content' =>
      rw [held] at first
      cases first
      exact room
    | none =>
      rw [held] at first
      exact ih (next held) first

theorem readBytes_of_firstFile? {content : List UInt8} (isProject : disk.IsProject root)
    (reaches : disk.ReachesFirst root specNames)
    (first : disk.firstFile? root = some (name, content)) :
    disk.readBytes ((disk.projectAt root).child name) = .ok content := by
  obtain ⟨listed, held⟩ := held_of_firstOf? first
  exact readBytes_child isProject.status (isName_of_mem listed)
    (hasRoomFor_of_firstOf? reaches first) held

end Disk

namespace Spec
variable {disk other : Disk} {root : Text}

theorem discover_of_not_reachesFirst (isProject : disk.IsProject root)
    (blocked : ¬ disk.ReachesFirst root specNames) :
    ∃ name ∈ specNames, ¬ disk.HasRoomFor root name ∧ (discover disk root).outcome.1
      = .error (.mishap (.file (.tooLong ((disk.projectAt root).child name)))) := by
  obtain ⟨name, listed, long, failed⟩ :=
    Disk.findM?_of_not_reachesFirst isProject (List.Subset.refl specNames) blocked
  have outcome := discover_of_directory isProject.resolved isProject.there
  rw [failed] at outcome
  exact ⟨name, listed, long, outcome⟩

theorem discover_eq_firstFile?_iff (isProject : disk.IsProject root) :
    (discover disk root).outcome.1
      = .ok ((disk.firstFile? root).map fun first => (disk.projectAt root).child first.1)
      ↔ disk.ReachesFirst root specNames := by
  constructor
  · intro found
    by_contra blocked
    obtain ⟨name, -, -, failed⟩ := discover_of_not_reachesFirst isProject blocked
    cases found.symm.trans failed
  · intro reaches
    rw [discover_of_directory isProject.resolved isProject.there,
      Disk.findM?_of_reachesFirst isProject (List.Subset.refl specNames) reaches]
    rfl

/-- What is found is the first file, and its bytes are there to be read. -/
theorem readBytes_of_discovered {file : Path} (isProject : disk.IsProject root)
    (found : (discover disk root).outcome.1 = .ok (some file)) :
    ∃ name content, disk.firstFile? root = some (name, content)
      ∧ file = (disk.projectAt root).child name ∧ disk.readBytes file = .ok content := by
  have reaches : disk.ReachesFirst root specNames := by
    by_contra blocked
    obtain ⟨name, -, -, failed⟩ := discover_of_not_reachesFirst isProject blocked
    cases found.symm.trans failed
  have first := Except.ok.inj (found.symm.trans ((discover_eq_firstFile?_iff isProject).mpr reaches))
  obtain ⟨⟨name, content⟩, held, rfl⟩ := Option.map_eq_some_iff.mp first.symm
  exact ⟨name, content, held, rfl, Disk.readBytes_of_firstFile? isProject reaches held⟩

theorem discover_congr (isProject : disk.IsProject root) (isProject' : other.IsProject root)
    (sameRoot : other.projectAt root = disk.projectAt root)
    (sameFirst : other.firstFile? root = disk.firstFile? root) :
    discover other root = discover disk root := by
  rw [discover_eq_of_directory isProject'.resolved isProject'.there,
    discover_eq_of_directory isProject.resolved isProject.there,
    Disk.findM?_isFile_congr isProject isProject' sameRoot (List.Subset.refl specNames) sameFirst,
    sameRoot]

theorem parse_congr [Host] {file : Path} (same : other.readBytes file = disk.readBytes file) :
    parse other file = parse disk file := by
  simp only [parse, Disk.readText, same]

end Spec

namespace Report
open Spec
variable {disk other : Disk} {root : Text}

theorem ofProject_congr [Host] (sameFound : discover other root = discover disk root)
    (sameParsed : ∀ file, (discover disk root).outcome.1 = .ok (some file) →
      parse other file = parse disk file) (allowMissing : Bool) :
    (ofProject other root allowMissing).outcome = (ofProject disk root allowMissing).outcome := by
  unfold Step.outcome at sameParsed ⊢
  simp only [ofProject, sameFound, ExceptT.run_bind, StateT.run_bind, Id.run_bind]
  rcases ran : Id.run ((discover disk root).run.run []) with ⟨e | _ | file, notes⟩
  · rfl
  · rfl
  · rw [ran] at sameParsed
    simp only [sameParsed file rfl]

/-- In a directory the discovery finds the first name that a file has, just when the names up to it
have room; otherwise it stops at one whose path is too long. Two disks on which the directory and
the first file are the same are reported on alike, whatever else is on them. -/
theorem first_file_decides [Host] (isProject : disk.IsProject root) :
    ((discover disk root).outcome.1
        = .ok ((disk.firstFile? root).map fun first => (disk.projectAt root).child first.1)
          ↔ disk.ReachesFirst root specNames)
      ∧ (¬ disk.ReachesFirst root specNames → ∃ name ∈ specNames, ¬ disk.HasRoomFor root name
        ∧ (discover disk root).outcome.1
          = .error (.mishap (.file (.tooLong ((disk.projectAt root).child name)))))
      ∧ ∀ other : Disk, other.IsProject root → other.projectAt root = disk.projectAt root →
        other.firstFile? root = disk.firstFile? root → ∀ allowMissing,
        (ofProject other root allowMissing).outcome = (ofProject disk root allowMissing).outcome := by
  refine ⟨discover_eq_firstFile?_iff isProject, discover_of_not_reachesFirst isProject, ?_⟩
  intro other isProject' sameRoot sameFirst allowMissing
  have sameFound := discover_congr isProject isProject' sameRoot sameFirst
  refine ofProject_congr sameFound (fun file found => ?_) allowMissing
  have found' : (discover other root).outcome.1 = .ok (some file) := sameFound ▸ found
  obtain ⟨name, content, first, -, read⟩ := readBytes_of_discovered isProject found
  obtain ⟨name', content', first', -, read'⟩ := readBytes_of_discovered isProject' found'
  obtain ⟨rfl, rfl⟩ : name' = name ∧ content' = content := by
    rw [sameFirst, first] at first'
    cases first'
    exact ⟨rfl, rfl⟩
  exact parse_congr (read'.trans read.symm)

/-- A project whose description has the second of the names. -/
def tidyDisk : Disk := .withFile "openapi.yaml" "openapi: 3.0.0"

/-- The same project among other things: a directory has the first of the names, and files have
others. -/
def crowdedDisk : Disk := ⟨["w"], [
  (["w"], .directory), (["w", "openapi.json"], .directory), (["w", "swagger.json"], .file []),
  (["w", "dispatch.yaml"], .file [255]), (["w", "old"], .directory),
  (["w", "old", "openapi.json"], .file []),
  (["w", "openapi.yaml"], .file (Utf8.encode "openapi: 3.0.0"))]⟩

theorem tidyDisk_first_file_decides :
    crowdedDisk.IsProject "." ∧ tidyDisk.IsProject "."
      ∧ (discover crowdedDisk ".").outcome.1 = .ok (some ⟨"/", ["w", "openapi.yaml"]⟩)
      ∧ ∀ allowMissing, (ofProject tidyDisk "." allowMissing).outcome
        = (ofProject crowdedDisk "." allowMissing).outcome := by
  have crowded : crowdedDisk.IsProject "." := by decide +kernel
  have tidy : tidyDisk.IsProject "." := by decide +kernel
  have first : (crowdedDisk.firstFile? ".").map
      (fun first => (crowdedDisk.projectAt ".").child first.1)
      = some ⟨"/", ["w", "openapi.yaml"]⟩ := by decide +kernel
  obtain ⟨found, -, alike⟩ := first_file_decides crowded
  rw [first] at found
  refine ⟨crowded, tidy, found.mpr (by decide +kernel), ?_⟩
  exact alike tidyDisk tidy (by decide +kernel) (by decide +kernel)

/-- Nothing but directories is there, and yet the discovery does not come to nothing. -/
theorem deepRoot_not_answered : deepDisk.IsProject deepRoot ∧ deepDisk.firstFile? deepRoot = none
    ∧ ∀ found, (discover deepDisk deepRoot).outcome.1 ≠ .ok found := by
  have isProject : deepDisk.IsProject deepRoot := by
    refine ⟨deepRoot_resolve, ?_⟩
    rw [Disk.holds, deepRoot_status]
    rfl
  have blocked : ¬ deepDisk.ReachesFirst deepRoot specNames := by decide +kernel
  refine ⟨isProject, by decide +kernel, fun found answered => ?_⟩
  obtain ⟨name, -, -, failed⟩ := discover_of_not_reachesFirst isProject blocked
  cases answered.symm.trans failed

end Report
end ExposureLint
