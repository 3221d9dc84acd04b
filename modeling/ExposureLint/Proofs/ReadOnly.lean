import Mathlib
import ExposureLint.Proofs.Discovery
import ExposureLint.Proofs.Ending

/-!
What the program leaves behind. Nothing that it does before its end changes the disk, and its end
does so only after a crash: directories are made down to the one for logs, so far as they are not
there, and one file is written into it.
-/
namespace ExposureLint

namespace Path
variable {here done parts more : List Text}

theorem climbed_append (done parts more : List Text) :
    climbed done (parts ++ more) = climbed (climbed done parts) more := by
  induction parts generalizing done with
  | nil => rfl
  | cons p rest ih => exact ih _

theorem climbed_concat {name : Text} (proper : name ≠ dots) (done parts : List Text) :
    climbed done (parts ++ [name]) = climbed done parts ++ [name] := by
  rw [climbed_append, climbed, climbed, if_neg (by simpa using proper)]

end Path

namespace Disk
variable {before after d d' : Disk} {place above : Place} {e : Entry} {p logs : Path}
  {way way' : Place → Prop}

/-- Everything above an entry is a directory. -/
def IsTree (d : Disk) : Prop :=
  ∀ place, (d.entryAt place).isSome → d.entryAt place.dropLast = some .directory

/-- What becomes of a disk on which directories are made, all of them at places on a way. -/
structure Grows (way : Place → Prop) (before after : Disk) : Prop where
  here : after.here = before.here
  entries : ∀ place, after.entryAt place = before.entryAt place
    ∨ before.entryAt place = none ∧ after.entryAt place = some .directory ∧ way place

/-- The places that a path leads past, and its own: those that the beginnings of it have. -/
def IsOnWay (d : Disk) (p : Path) (place : Place) : Prop :=
  ∃ above, above <+: p.parts ∧ place = d.placeOf ⟨p.root, above⟩

theorem lookup_map_replaced (entries : List (Place × Entry)) (place other : Place) (e : Entry) :
    (entries.map fun x => if x.1 == place then (place, e) else x).lookup other
      = if other = place then (entries.lookup place).map fun _ => e else entries.lookup other := by
  induction entries with
  | nil => simp
  | cons x rest ih =>
    obtain ⟨at', old⟩ := x
    rw [List.map_cons]
    by_cases here : at' = place
    · subst here
      by_cases same : other = at'
      · simp [same]
      · simp only [beq_self_eq_true, if_true, List.lookup_cons, beq_false_of_ne same, ih, if_neg same]
    · simp only [beq_false_of_ne here, Bool.false_eq_true, if_false, List.lookup_cons, ih]
      by_cases same : other = place
      · subst same
        simp [beq_false_of_ne (Ne.symm here)]
      · simp [same]

theorem entryAt_put (below : place ≠ []) (other : Place) :
    (d.put place e).entryAt other = if other = place then some e else d.entryAt other := by
  unfold entryAt put
  split
  · rename_i root
    rw [if_neg]
    rintro rfl
    exact below (List.isEmpty_iff.mp root)
  · split
    · rename_i there
      obtain ⟨old, found⟩ := Option.isSome_iff_exists.mp there
      rw [lookup_map_replaced, found]
      rfl
    · rename_i missing
      rw [List.lookup_append, List.lookup_cons, List.lookup_nil]
      by_cases same : other = place
      · subst same
        rw [Option.not_isSome_iff_eq_none.mp missing]
        simp
      · simp [same, beq_false_of_ne same]

@[simp] theorem here_put : (d.put place e).here = d.here := by
  unfold put
  split <;> rfl

theorem placeOf_eq :
    d.placeOf p = Path.climbed (if p.root.isEmpty then d.here else []) p.parts := rfl

theorem isTree_of_entries (each : ∀ x ∈ d.entries, d.entryAt x.1.dropLast = some .directory) :
    d.IsTree := by
  intro place there
  unfold entryAt at there
  split at there
  · rename_i root
    rw [List.isEmpty_iff.mp root]
    rfl
  · obtain ⟨e, found⟩ := Option.isSome_iff_exists.mp there
    obtain ⟨before, after, shape, -⟩ := List.lookup_eq_some_iff.mp found
    exact each (place, e) (by simp [shape])

namespace Grows

theorem refl (way : Place → Prop) (d : Disk) : Grows way d d := ⟨rfl, fun _ => .inl rfl⟩

theorem mono (wider : ∀ place, way place → way' place) (grows : Grows way before after) :
    Grows way' before after where
  here := grows.here
  entries place := (grows.entries place).imp_right fun ⟨missing, made, onWay⟩ =>
    ⟨missing, made, wider place onWay⟩

theorem keeps (grows : Grows way before after) (there : before.entryAt place = some e) :
    after.entryAt place = some e := by
  obtain same | ⟨missing, -, -⟩ := grows.entries place
  · rw [same, there]
  · cases missing.symm.trans there

theorem trans {between : Disk} (first : Grows way before between) (second : Grows way between after) :
    Grows way before after where
  here := second.here.trans first.here
  entries place := by
    obtain same | ⟨missing, made, onWay⟩ := first.entries place
    · rw [← same]
      exact second.entries place
    · exact .inr ⟨missing, second.keeps made, onWay⟩

theorem placeOf (grows : Grows way before after) (p : Path) :
    after.placeOf p = before.placeOf p := by
  rw [placeOf_eq, placeOf_eq, grows.here]

end Grows

/-- A path that leads to a directory leads to it at its own place. -/
theorem follow_of_status (found : d.status p = .found place e) :
    d.follow (if p.root.isEmpty then d.here else []) p.parts = .found place e
      ∧ place = d.placeOf p ∧ d.entryAt place = some e := by
  unfold status at found
  split at found
  · cases found
  · split at found
    · cases found
    · exact ⟨found, follow_found found⟩

theorem put_directory_grows (tree : d.IsTree) {name : Text}
    (missing : d.entryAt (place ++ [name]) = none)
    (inside : d.entryAt place = some .directory) :
    (d.put (place ++ [name]) .directory).IsTree
      ∧ Grows (· = place ++ [name]) d (d.put (place ++ [name]) .directory) := by
  have below : place ++ [name] ≠ [] := List.concat_ne_nil name place
  have grows : Grows (· = place ++ [name]) d (d.put (place ++ [name]) .directory) := by
    refine ⟨here_put, fun other => ?_⟩
    rw [entryAt_put below]
    split
    · rename_i same
      exact .inr ⟨same ▸ missing, rfl, same⟩
    · exact .inl rfl
  refine ⟨fun other there => ?_, grows⟩
  rw [entryAt_put below] at there
  split at there
  · rename_i same
    rw [same, List.dropLast_concat]
    exact grows.keeps inside
  · exact grows.keeps (tree other there)

theorem follow_of_missing (missing : d.status p = .missing) :
    d.follow (if p.root.isEmpty then d.here else []) p.parts = .missing := by
  unfold status at missing
  split at missing
  · cases missing
  · split at missing
    · cases missing
    · exact missing

theorem entryAt_of_missing (tree : d.IsTree) (missing : d.status p = .missing)
    (found : d.status p.parent = .found place .directory) :
    d.placeOf p = place ++ [p.name] ∧ d.entryAt (place ++ [p.name]) = none := by
  obtain ⟨follows, above, inside⟩ := follow_of_status found
  have parts : p.parts = p.parent.parts ++ [p.name] := by
    rcases List.eq_nil_or_concat p.parts with root | ⟨rest, last, shape⟩
    · have same : p.parent = p := by
        obtain ⟨root, parts⟩ := p
        simp_all [Path.parent]
      rw [same, missing] at found
      cases found
    · simp [Path.parent, Path.name, shape]
  have absent : d.follow place [p.name] = .missing := by
    rw [← follow_append follows, ← parts]
    exact follow_of_missing missing
  simp only [Disk.follow, inside] at absent
  split at absent
  · cases absent
  -- two dots would lead to what is above a directory, and that is there
  · have proper : p.name ≠ Path.dots := by
      intro dots
      rw [if_pos (by simpa using dots), tree place (by rw [inside]; rfl)] at absent
      cases absent
    rw [if_neg (by simpa using proper)] at absent
    refine ⟨?_, ?_⟩
    · rw [placeOf_eq, parts, Path.climbed_concat proper, above]
      rfl
    · split at absent
      · cases absent
      · assumption

theorem ensureOne_grows (tree : d.IsTree) (made : d.ensureOne p = .ok d') :
    d'.IsTree ∧ Grows (· = d.placeOf p) d d' ∧ d'.entryAt (d.placeOf p) = some .directory := by
  unfold ensureOne at made
  split at made
  · rename_i place found
    cases made
    obtain ⟨-, rfl, there⟩ := follow_of_status found
    exact ⟨tree, .refl _ d, there⟩
  · cases made
  · cases made
  · cases made
  · cases made
  · rename_i missing
    split at made
    · rename_i place found
      cases made
      obtain ⟨-, -, inside⟩ := follow_of_status found
      obtain ⟨here, new⟩ := entryAt_of_missing tree missing found
      obtain ⟨tree', grows⟩ := put_directory_grows tree new inside
      rw [here]
      refine ⟨tree', grows, ?_⟩
      rw [entryAt_put (List.concat_ne_nil _ _), if_pos rfl]
    · cases made

theorem IsOnWay.self (d : Disk) (p : Path) : d.IsOnWay p (d.placeOf p) :=
  ⟨p.parts, List.prefix_refl _, rfl⟩

theorem IsOnWay.of_parent (onWay : d.IsOnWay p.parent place) : d.IsOnWay p place := by
  obtain ⟨above, isAbove, rfl⟩ := onWay
  exact ⟨above, isAbove.trans (List.dropLast_prefix _), rfl⟩

theorem IsOnWay.of_child {name : Text} (onWay : d.IsOnWay p place) :
    d.IsOnWay (p.child name) place := by
  obtain ⟨above, isAbove, rfl⟩ := onWay
  exact ⟨above, isAbove.trans (List.prefix_append _ _), rfl⟩

theorem Grows.isOnWay (grows : Grows way before after) (onWay : after.IsOnWay p place) :
    before.IsOnWay p place := by
  obtain ⟨above, isAbove, rfl⟩ := onWay
  exact ⟨above, isAbove, grows.placeOf _⟩

/-- What comes of making a directory with those above it, all of which may stop halfway. -/
structure Reaches (p : Path) (before : Disk) (made : Disk × Except FileFault Unit) : Prop where
  tree : made.1.IsTree
  grows : Grows (before.IsOnWay p) before made.1
  there : made.2 = .ok () → made.1.entryAt (before.placeOf p) = some .directory

theorem settled_reaches (tree : d.IsTree) : Reaches p d (ensureFrom.settled d (d.ensureOne p)) := by
  cases made : d.ensureOne p with
  | error fault => exact ⟨tree, .refl _ d, fun ok => by cases ok⟩
  | ok d' =>
    obtain ⟨tree', grows, there⟩ := ensureOne_grows tree made
    refine ⟨tree', grows.mono ?_, fun _ => there⟩
    rintro place rfl
    exact .self d p

theorem Reaches.next {made : Disk × Except FileFault Unit} (parent : Reaches p.parent d made) :
    Reaches p d (ensureFrom.settled made.1 (made.1.ensureOne p)) := by
  have grows := parent.grows.mono fun _ => IsOnWay.of_parent
  obtain ⟨tree, further, there⟩ := settled_reaches (p := p) parent.tree
  exact ⟨tree, grows.trans (further.mono fun _ => grows.isOnWay),
    fun ok => grows.placeOf p ▸ there ok⟩

/-- By induction on how far above directories are made. -/
theorem ensureFrom_reaches (tree : d.IsTree) (depth : Nat) (p : Path) :
    Reaches p d (ensureFrom depth p d) := by
  induction depth generalizing p with
  | zero => exact settled_reaches tree
  | succ depth ih =>
    rw [ensureFrom]
    split
    · split
      · exact ⟨tree, .refl _ d, fun ok => by cases ok⟩
      · have parent := ih p.parent
        rcases ran : ensureFrom depth p.parent d with ⟨d', fault | made⟩
        · rw [ran] at parent
          exact ⟨parent.tree, parent.grows.mono fun _ => IsOnWay.of_parent, fun ok => by cases ok⟩
        · rw [ran] at parent
          exact parent.next
    · exact settled_reaches tree

theorem ensure_reaches (tree : d.IsTree) (p : Path) : Reaches p d (d.ensure p) :=
  ensureFrom_reaches tree p.parts.length p

/-- A disk with directories made on the way to one for logs, and with one file in it. The file may
have been there before, but a directory in its place stays. -/
structure IsLogged (logs : Path) (stamp : Text) (before after : Disk) : Prop where
  here : after.here = before.here
  entries : ∀ place, after.entryAt place = before.entryAt place
    ∨ before.entryAt place = none ∧ after.entryAt place = some .directory
      ∧ before.IsOnWay logs place
    ∨ place = before.placeOf (logs.child (crashLogName stamp))
      ∧ before.entryAt place ≠ some .directory
      ∧ ∃ content, after.entryAt place = some (.file content)

theorem Grows.isLogged {stamp : Text} (grows : Grows (before.IsOnWay logs) before after) :
    IsLogged logs stamp before after where
  here := grows.here
  entries place := (grows.entries place).imp_right .inl

/-- A file is opened at the place of its path, and where a directory is, none is. -/
theorem fileAt_place (tree : d.IsTree) (opens : d.fileAt p = .ok place) :
    place = d.placeOf p ∧ place ≠ [] ∧ d.entryAt place ≠ some .directory := by
  have notRoot {old : Option Entry} (there : d.entryAt place = old)
      (other : old ≠ some .directory) : place ≠ [] ∧ d.entryAt place ≠ some .directory :=
    ⟨fun root => other (by rw [← there, root]; rfl), there ▸ other⟩
  unfold fileAt at opens
  split at opens
  · rename_i found
    cases opens
    obtain ⟨-, here, there⟩ := follow_of_status found
    exact ⟨here, notRoot there (by simp)⟩
  · cases opens
  · cases opens
  · cases opens
  · cases opens
  · rename_i missing
    split at opens
    · rename_i found
      cases opens
      obtain ⟨here, absent⟩ := entryAt_of_missing tree missing found
      exact ⟨here.symm, notRoot absent (by simp)⟩
    · cases opens

end Disk

namespace Environment

/-- Where the data of programs is kept: where a variable that is set tells, or else in the home
directory. -/
inductive IsDataHome [Host] (env : Environment) : Path → Prop
  | told {base : Text} (filled : env.filled? "XDG_DATA_HOME" = some base) :
      IsDataHome env (Path.ofText base)
  | home {home : Path} (unfilled : env.filled? "XDG_DATA_HOME" = none) (found : env.home = .ok home) :
      IsDataHome env ((home.child ".local").child "share")

theorem isDataHome_of_dataDirectory [Host] {env : Environment} {directory : Path}
    (found : env.dataDirectory "Linux" = .ok directory) :
    ∃ base, env.IsDataHome base ∧ directory = base.child dataDirectoryName := by
  have linux : hasDataHome "Linux" = true := rfl
  rw [dataDirectory, if_pos linux] at found
  split at found
  · rename_i base filled
    cases found
    exact ⟨_, .told filled, rfl⟩
  · rename_i unfilled
    obtain ⟨home, home', rfl⟩ := map_eq_ok_iff.mp found
    exact ⟨_, .home unfilled home', rfl⟩

end Environment

def Path.logs (base : Path) : Path := (base.child Environment.dataDirectoryName).child "logs"

namespace Disk
variable {d after : Disk} {place : Place} {logs : Path}

theorem put_isLogged {stamp : Text} (tree : after.IsTree) (grows : Grows (d.IsOnWay logs) d after)
    (opens : after.fileAt (logs.child (crashLogName stamp)) = .ok place) (content : List UInt8) :
    IsLogged logs stamp d (after.put place (.file content)) := by
  obtain ⟨here, below, free⟩ := fileAt_place tree opens
  refine ⟨here_put.trans grows.here, fun other => ?_⟩
  rw [entryAt_put below]
  split
  · rename_i same
    subst same
    refine .inr (.inr ⟨here.trans (grows.placeOf _), fun directory => ?_, content, rfl⟩)
    exact free (grows.keeps directory)
  · exact grows.isLogged.entries other

section
variable [Host] {env : Environment} {stamp : Text} {m : Mishap}
  {r : Disk × Except FileFault Path} {made : Except FileFault Path}

/-- Making the directory for logs makes directories on the way to it, or none where no directory for
data is told. -/
theorem ensureLogs_grows (tree : d.IsTree) (ran : d.ensureLogs env = (after, made)) :
    after = d ∧ (∃ fault, made = .error fault)
      ∨ ∃ base, env.IsDataHome base ∧ after.IsTree ∧ Grows (d.IsOnWay base.logs) d after
        ∧ ∀ logs, made = .ok logs → logs = base.logs := by
  cases told : env.dataDirectory "Linux" with
  | error fault =>
    rw [ensureLogs, ensureDataDirectory, told] at ran
    cases ran
    exact .inl ⟨rfl, fault, rfl⟩
  | ok directory =>
    obtain ⟨base, isHome, rfl⟩ := Environment.isDataHome_of_dataDirectory told
    refine .inr ⟨base, isHome, ?_⟩
    have first := d.ensure_reaches tree (base.child Environment.dataDirectoryName)
    rcases begun : d.ensure (base.child Environment.dataDirectoryName) with ⟨d', data⟩
    rw [begun] at first
    have grows : Grows (d.IsOnWay base.logs) d d' := first.grows.mono fun _ => IsOnWay.of_child
    simp only [ensureLogs, ensureDataDirectory, told, begun] at ran
    cases data with
    | error fault =>
      cases ran
      exact ⟨first.tree, grows, fun logs same => by cases same⟩
    | ok data =>
      have second := d'.ensure_reaches first.tree base.logs
      simp only [Except.map] at ran
      rw [Prod.mk.injEq] at ran
      obtain ⟨rfl, rfl⟩ := ran
      refine ⟨second.tree, grows.trans (second.grows.mono fun _ => grows.isOnWay), ?_⟩
      intro logs same
      obtain ⟨-, -, rfl⟩ := map_eq_ok_iff.mp same
      rfl

theorem ensureLogs_isLogged (tree : d.IsTree) (ran : d.ensureLogs env = (after, made)) :
    after = d ∨ ∃ base, env.IsDataHome base ∧ IsLogged base.logs stamp d after := by
  obtain ⟨same, -⟩ | ⟨base, isHome, -, grows, -⟩ := ensureLogs_grows tree ran
  · exact .inl same
  · exact .inr ⟨base, isHome, grows.isLogged⟩

theorem put_log_isLogged (tree : d.IsTree) (ran : d.ensureLogs env = (after, .ok logs))
    (opens : after.fileAt (logs.child (crashLogName stamp)) = .ok place) (content : List UInt8) :
    ∃ base, env.IsDataHome base
      ∧ IsLogged base.logs stamp d (after.put place (.file content)) := by
  obtain ⟨-, fault, failed⟩ | ⟨base, isHome, tree', grows, same⟩ := ensureLogs_grows tree ran
  · cases failed
  · obtain rfl := same _ rfl
    exact ⟨base, isHome, put_isLogged tree' grows opens content⟩

/-- Whatever the log of a crash comes to, nothing but the log is new; and nothing is at all where no
directory for data is told. -/
theorem LogComesTo.isLogged (tree : d.IsTree) (comes : d.LogComesTo env stamp m r) :
    r.1 = d ∨ ∃ base, env.IsDataHome base ∧ IsLogged base.logs stamp d r.1 := by
  cases comes with
  | homeless unmade => exact ensureLogs_isLogged tree unmade
  | closed made shut => exact ensureLogs_isLogged tree made
  | empty made opens unclean => exact .inr (put_log_isLogged tree made opens _)
  | written made opens clean => exact .inr (put_log_isLogged tree made opens _)

end

end Disk

namespace Cli

section
variable {disk : Disk} {stamp : Text} {s : Session} {i : Interruption}

@[simp] theorem disk_leave {message : Text} {code : Int} :
    (leave disk message code s).disk = disk := by
  simp only [leave]
  split <;> rfl

variable [Host]

/-- Only a crash is followed by something that changes a disk. -/
theorem disk_conclude_of_no_crash (noCrash : ∀ m, i ≠ .failure (.mishap m)) :
    (conclude disk stamp i s).disk = disk := by
  cases i with
  | exit code => rfl
  | interrupt => rfl
  | failure f =>
    cases f with
    | lint e => exact disk_leave
    | mishap m => exact absurd rfl (noCrash m)

theorem disk_conclude_mishap (m : Mishap) : (conclude disk stamp (.failure (.mishap m)) s).disk
    = (disk.writeCrashLog s.surroundings.environment stamp m).1 := by
  simp only [conclude]
  rcases disk.writeCrashLog s.surroundings.environment stamp m with ⟨after, fault | file⟩
  · rfl
  · exact disk_leave

def LeavesLog (env : Environment) (stamp : Text) (before after : Disk) : Prop :=
  after = before ∨ ∃ base, env.IsDataHome base ∧ Disk.IsLogged base.logs stamp before after

/-- On its way the program leaves a disk as it is, and at its end, too, if it ends with an exit
code, with an interrupt or with what is foreseen. After anything else nothing is new but directories
on the way to the one for logs, and a log in it. -/
theorem leaves_only_logs (tree : disk.IsTree) (stamp : Text) :
    (∀ i s, ((∀ m, i ≠ .failure (.mishap m)) → (conclude disk stamp i s).disk = disk)
        ∧ LeavesLog s.surroundings.environment stamp disk (conclude disk stamp i s).disk)
      ∧ ∀ surroundings args,
        ((∀ m, ((runArguments disk args).run (.start surroundings)).1 ≠ .error (.mishap m)) →
          (run disk surroundings stamp args).disk = disk)
        ∧ LeavesLog surroundings.environment stamp disk (run disk surroundings stamp args).disk := by
  have each (i : Interruption) (s : Session) :
      ((∀ m, i ≠ .failure (.mishap m)) → (conclude disk stamp i s).disk = disk)
        ∧ LeavesLog s.surroundings.environment stamp disk (conclude disk stamp i s).disk := by
    refine ⟨disk_conclude_of_no_crash, ?_⟩
    by_cases crash : ∃ m, i = .failure (.mishap m)
    · obtain ⟨m, rfl⟩ := crash
      rw [disk_conclude_mishap]
      exact (disk.writeCrashLog_comesTo _ stamp m).isLogged tree
    · exact .inl (disk_conclude_of_no_crash (not_exists.mp crash))
  refine ⟨each, fun surroundings args => ?_⟩
  have place := runArguments_place disk surroundings args
  rcases ran : (runArguments disk args).run (.start surroundings) with ⟨result, s⟩
  rw [ran] at place
  obtain rfl : s.surroundings = surroundings := place
  rw [run_eq_conclude ran]
  obtain ⟨unchanged, leaves⟩ := each (.ofResult result) s
  refine ⟨fun noCrash => unchanged fun m same => ?_, leaves⟩
  cases result with
  | ok code => cases same
  | error f =>
    cases same
    exact noCrash m rfl

end

/-- On a file with a bad date the program crashes, and here is all that is new then. -/
theorem bad_date_leaves_only_logs : Spec.badDateDisk.IsTree
    ∧ LeavesLog [("HOME", "/w")] "now" Spec.badDateDisk
      (run Spec.badDateDisk ⟨false, [("HOME", "/w")]⟩ "now" ["check"]).disk
    ∧ ((run Spec.badDateDisk ⟨false, [("HOME", "/w")]⟩ "now" ["check"]).disk.entryAt
      ["w", ".local", "share", "dispatchlint", "logs", "crash-now.log"]).isSome := by
  have tree : Spec.badDateDisk.IsTree := Disk.isTree_of_entries (by decide +kernel)
  have left := ((leaves_only_logs tree "now").2 ⟨false, [("HOME", "/w")]⟩ ["check"]).2
  exact ⟨tree, left, by decide +kernel⟩

end Cli
end ExposureLint
