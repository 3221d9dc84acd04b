import Mathlib
import ExposureLint.Proofs.ProjectOutcome

/-!
Projects that may lack a description. Allowing for that turns one failure into a report, that of a
directory without a description, and leaves every other outcome as it is. It does not reach a
directory whose path has no room for the name of a description: looking for one is a mishap there.
-/
namespace ExposureLint

theorem Step.ofDisk_ok_bind {α β : Type} (a : α) (f : α → Step β) :
    (Step.ofDisk (.ok a) >>= f) = f a := rfl

namespace Disk
variable {disk : Disk} {file : Path} {kind : Entry → Bool}

theorem leadsTo_eq_ok_iff {told : Bool} : disk.leadsTo kind file = .ok told
    ↔ disk.status file ≠ .tooLong ∧ disk.holds kind file = told := by
  unfold leadsTo holds
  split <;> simp_all

theorem leadsTo_of_holds {other : Entry → Bool} (weaker : ∀ e, kind e = true → other e = true)
    (held : disk.holds kind file = true) : disk.leadsTo other file = .ok true := by
  unfold holds at held
  unfold leadsTo
  split at held
  · rename_i e found
    rw [found]
    exact congrArg Except.ok (weaker e held)
  · cases held

theorem findM?_isFile_eq_none_iff {paths : List Path} :
    paths.findM? disk.isFile = .ok none ↔ ∀ p ∈ paths, disk.isFile p = .ok false := by
  induction paths with
  | nil => exact iff_of_true rfl (List.forall_mem_nil _)
  | cons p rest ih =>
    rw [List.findM?, bind_eq_ok_iff, List.forall_mem_cons]
    constructor
    · rintro ⟨there, answered, next⟩
      cases there with
      | true => cases next
      | false => exact ⟨answered, ih.mp next⟩
    · rintro ⟨answered, others⟩
      exact ⟨false, answered, ih.mpr others⟩

theorem findM?_isFile_error {paths : List Path} {fault : FileFault}
    (failed : paths.findM? disk.isFile = .error fault) :
    ∃ p ∈ paths, disk.status p = .tooLong ∧ fault = .tooLong p := by
  induction paths with
  | nil => cases failed
  | cons p rest ih =>
    rw [List.findM?] at failed
    cases answered : disk.isFile p with
    | error other =>
      obtain ⟨beyond, rfl⟩ := leadsTo_error_iff.mp answered
      rw [answered] at failed
      cases failed
      exact ⟨p, List.mem_cons_self, beyond, rfl⟩
    | ok there =>
      rw [answered] at failed
      cases there with
      | true => cases failed
      | false =>
        obtain ⟨q, later, beyond⟩ := ih failed
        exact ⟨q, List.mem_cons_of_mem p later, beyond⟩

/-- A root that leads to a directory in which none of the names is a file. -/
structure IsBare (d : Disk) (root : Text) : Prop where
  resolved : d.resolve (Path.ofText root) = .ok (d.projectAt root)
  there : d.holds Entry.isDirectory (d.projectAt root) = true
  nameless : ∀ name ∈ specNames, d.holds Entry.isFile ((d.projectAt root).child name) = false

/-- No name makes the path of the root too long. -/
def HasRoom (d : Disk) (root : Text) : Prop :=
  ∀ name ∈ specNames, d.status ((d.projectAt root).child name) ≠ .tooLong

end Disk

namespace Spec
variable {disk : Disk} {root : Text}

def noteFound (place : Path) : Option Path → Step (Option Path)
  | some file => do
    Step.note (.discovered file)
    return some file
  | none => do
    Step.note (.noneIn place)
    return none

/-- In a directory the discovery asks for one name after the other. -/
theorem discover_eq_of_directory
    (resolved : disk.resolve (Path.ofText root) = .ok (disk.projectAt root))
    (there : disk.holds Entry.isDirectory (disk.projectAt root) = true) :
    discover disk root
      = Step.ofDisk ((specNames.map (disk.projectAt root).child).findM? disk.isFile)
        >>= noteFound (disk.projectAt root) := by
  have isThere : disk.isThere (disk.projectAt root) = .ok true :=
    Disk.leadsTo_of_holds (fun _ _ => rfl) there
  have isDirectory : disk.isDirectory (disk.projectAt root) = .ok true :=
    Disk.leadsTo_of_holds (fun _ same => same) there
  rw [discover, resolved, Step.ofDisk_ok_bind, isThere, Step.ofDisk_ok_bind, isDirectory,
    Step.ofDisk_ok_bind]
  rfl

theorem discover_of_directory (resolved : disk.resolve (Path.ofText root) = .ok (disk.projectAt root))
    (there : disk.holds Entry.isDirectory (disk.projectAt root) = true) :
    (discover disk root).outcome.1
      = ((specNames.map (disk.projectAt root).child).findM? disk.isFile).mapError
          fun fault => .mishap (.file fault) := by
  rw [discover_eq_of_directory resolved there]
  rcases (specNames.map (disk.projectAt root).child).findM? disk.isFile with fault | _ | file <;> rfl

/-- What the discovery finds where nothing goes wrong: the root is resolved to a directory, and
the names are asked for in it. -/
structure Finds (disk : Disk) (root : Text) (found : Option Path) : Prop where
  resolved : disk.resolve (Path.ofText root) = .ok (disk.projectAt root)
  there : disk.holds Entry.isDirectory (disk.projectAt root) = true
  told : (specNames.map (disk.projectAt root).child).findM? disk.isFile = .ok found

theorem discover_eq_ok_iff {found : Option Path} :
    (discover disk root).outcome.1 = .ok found ↔ Finds disk root found := by
  constructor
  · have leads : (discover disk root).Leads fun result =>
        ∀ found, result = .ok found → Finds disk root found := by
      unfold discover
      refine .ask (fun _ => nofun) fun place resolved => ?_
      obtain rfl := Disk.projectAt_eq_of_resolve resolved
      refine .ask (fun _ => nofun) fun isThere _ => ?_
      cases isThere with
      | false => exact .failing nofun
      | true =>
        refine .ask (fun _ => nofun) fun isDirectory answered => ?_
        cases isDirectory with
        | false => exact .failing nofun
        | true =>
          refine .ask (fun _ => nofun) fun found told => ?_
          have finds : Finds disk root found := ⟨resolved, Disk.leadsTo_eq_holds answered, told⟩
          cases found with
          | some file => exact .note (.pure fun _ same => Except.ok.inj same ▸ finds)
          | none => exact .note (.pure fun _ same => Except.ok.inj same ▸ finds)
    exact leads.outcome found
  · intro finds
    rw [discover_of_directory finds.resolved finds.there, finds.told]
    rfl

theorem discover_eq_none_iff :
    (discover disk root).outcome.1 = .ok none ↔ disk.IsBare root ∧ disk.HasRoom root := by
  rw [discover_eq_ok_iff]
  have none_iff : (specNames.map (disk.projectAt root).child).findM? disk.isFile = .ok none
      ↔ ∀ name ∈ specNames, disk.status ((disk.projectAt root).child name) ≠ .tooLong
        ∧ disk.holds Entry.isFile ((disk.projectAt root).child name) = false := by
    rw [Disk.findM?_isFile_eq_none_iff, List.forall_mem_map]
    exact forall₂_congr fun _ _ => Disk.leadsTo_eq_ok_iff
  constructor
  · rintro ⟨resolved, there, told⟩
    have absent := none_iff.mp told
    exact ⟨⟨resolved, there, fun name listed => (absent name listed).2⟩,
      fun name listed => (absent name listed).1⟩
  · rintro ⟨bare, room⟩
    refine ⟨bare.resolved, bare.there, none_iff.mpr fun name listed => ?_⟩
    exact ⟨room name listed, bare.nameless name listed⟩

theorem discover_of_noRoom (bare : disk.IsBare root) (noRoom : ¬ disk.HasRoom root) :
    ∃ name ∈ specNames, (discover disk root).outcome.1
      = .error (.mishap (.file (.tooLong ((disk.projectAt root).child name)))) := by
  have outcome := discover_of_directory bare.resolved bare.there
  cases told : (specNames.map (disk.projectAt root).child).findM? disk.isFile with
  | error fault =>
    obtain ⟨p, among, -, rfl⟩ := Disk.findM?_isFile_error told
    obtain ⟨name, listed, rfl⟩ := List.mem_map.mp among
    rw [told] at outcome
    exact ⟨name, listed, outcome⟩
  | ok found =>
    cases found with
    | none =>
      rw [told] at outcome
      exact absurd (discover_eq_none_iff.mp outcome).2 noRoom
    | some file =>
      have first := (Disk.findM?_isFile_eq told).symm
      have isFile := List.find?_some first
      obtain ⟨name, listed, rfl⟩ := List.mem_map.mp (List.mem_of_find?_eq_some first)
      rw [bare.nameless name listed] at isFile
      cases isFile

end Spec

namespace Report
open Spec
variable {disk : Disk} {root : Text} {allowMissing : Bool} {r : Report}

/-- What is allowed matters only where discovery ends without a description. -/
theorem ofProject_allowing [Host] (found : (discover disk root).outcome.1 ≠ .ok none) :
    (ofProject disk root true).outcome = (ofProject disk root false).outcome := by
  unfold Step.outcome at found
  simp only [ofProject, Step.outcome, ExceptT.run_bind, StateT.run_bind, Id.run_bind]
  rcases ran : Id.run ((discover disk root).run.run []) with ⟨e | _ | file, notes⟩
  · rfl
  · rw [ran] at found
    exact absurd rfl found
  · rfl

theorem ofProject_of_nameless [Host] (nameless : (discover disk root).outcome.1 = .ok none) :
    (ofProject disk root true).outcome.1 = .ok skippedReport
      ∧ (ofProject disk root false).outcome.1 = .error (.lint (.noSpec root)) := by
  unfold Step.outcome at nameless
  simp only [ofProject, Step.outcome, ExceptT.run_bind, StateT.run_bind, Id.run_bind]
  rcases ran : Id.run ((discover disk root).run.run []) with ⟨result, notes⟩
  rw [ran] at nameless
  obtain rfl : result = .ok none := nameless
  exact ⟨rfl, rfl⟩

theorem ofProject_of_error [Host] {e : Failure}
    (failed : (discover disk root).outcome.1 = .error e) :
    (ofProject disk root allowMissing).outcome.1 = .error e := by
  unfold Step.outcome at failed
  simp only [ofProject, Step.outcome, ExceptT.run_bind, StateT.run_bind, Id.run_bind]
  rcases ran : Id.run ((discover disk root).run.run []) with ⟨result, notes⟩
  rw [ran] at failed
  obtain rfl : result = .error e := failed
  rfl

theorem not_skipped_of_required [Host] (made : (ofProject disk root false).outcome.1 = .ok r) :
    r.skipped = false := by
  have arises := (ofProject_leads disk root false).outcome
  rw [made] at arises
  cases arises with
  | skipped _ _ allowed => cases allowed
  | built _ _ _ _ built => exact complete_of_ofDocument built

theorem skips_iff [Host] : (∃ r, (ofProject disk root true).outcome.1 = .ok r ∧ r.skipped = true)
    ↔ (discover disk root).outcome.1 = .ok none := by
  constructor
  · rintro ⟨r, made, skipped⟩
    by_contra found
    rw [ofProject_allowing found] at made
    cases skipped.symm.trans (not_skipped_of_required made)
  · intro nameless
    exact ⟨skippedReport, (ofProject_of_nameless nameless).1, rfl⟩

/-- Allowing for a missing description gives a skipped report just in a bare directory. Anywhere
else it changes nothing, and what is reported is not skipped. -/
structure ToleratesBare [Host] (disk : Disk) (root : Text) : Prop where
  skips : (∃ r, (ofProject disk root true).outcome.1 = .ok r ∧ r.skipped = true) ↔ disk.IsBare root
  otherwise : ¬ disk.IsBare root →
    (ofProject disk root true).outcome = (ofProject disk root false).outcome
      ∧ ∀ r, (ofProject disk root true).outcome.1 = .ok r → r.skipped = false

/-- A missing description is tolerated, and nothing else, unless a bare directory has no room for
the name of one. With room the report is the skipped one, and a project that needs a description
fails for want of it; without room both fail alike, at a path that is too long. -/
theorem toleratesBare_iff [Host] (disk : Disk) (root : Text) :
    (ToleratesBare disk root ↔ (disk.IsBare root → disk.HasRoom root))
      ∧ (disk.IsBare root → disk.HasRoom root →
        (ofProject disk root true).outcome.1 = .ok skippedReport
          ∧ (ofProject disk root false).outcome.1 = .error (.lint (.noSpec root)))
      ∧ (disk.IsBare root → ¬ disk.HasRoom root → ∃ name ∈ specNames, ∀ allowMissing,
        (ofProject disk root allowMissing).outcome.1
          = .error (.mishap (.file (.tooLong ((disk.projectAt root).child name))))) := by
  refine ⟨⟨?_, ?_⟩, ?_, ?_⟩
  · intro tolerates bare
    exact (discover_eq_none_iff.mp (skips_iff.mp (tolerates.skips.mpr bare))).2
  · intro room
    constructor
    · rw [skips_iff, discover_eq_none_iff]
      exact and_iff_left_of_imp room
    · intro dressed
      have found : (discover disk root).outcome.1 ≠ .ok none := fun nameless =>
        dressed (discover_eq_none_iff.mp nameless).1
      have same := ofProject_allowing found
      refine ⟨same, fun r made => ?_⟩
      rw [same] at made
      exact not_skipped_of_required made
  · intro bare room
    exact ofProject_of_nameless (discover_eq_none_iff.mpr ⟨bare, room⟩)
  · intro bare noRoom
    obtain ⟨name, listed, failed⟩ := discover_of_noRoom bare noRoom
    exact ⟨name, listed, fun _ => ofProject_of_error failed⟩

end Report

namespace Disk

def downTo (place : Place) : Disk := ⟨[], place.inits.map fun above => (above, .directory)⟩

theorem entryAt_downTo {place above : Place} (isAbove : above <+: place) :
    (downTo place).entryAt above = some .directory := by
  have lookup (places : List Place) (there : above ∈ places) :
      (places.map fun p => (p, Entry.directory)).lookup above = some .directory := by
    induction places with
    | nil => cases there
    | cons p rest ih =>
      rw [List.map_cons, List.lookup_cons]
      cases same : above == p with
      | true => rfl
      | false => exact ih ((List.mem_cons.mp there).resolve_left (beq_eq_false_iff_ne.mp same))
  unfold entryAt
  split
  · rfl
  · exact lookup place.inits ((List.mem_inits above place).mpr isAbove)

theorem follow_downTo {place done rest : Place} (whole : done ++ rest = place)
    (plain : ∀ p ∈ rest, Path.sizeOf p ≤ Path.partLimit ∧ p ≠ Path.dots) :
    (downTo place).follow done rest = .found place .directory := by
  induction rest generalizing done with
  | nil =>
    rw [List.append_nil] at whole
    subst whole
    rw [follow, entryAt_downTo (List.prefix_refl done)]
  | cons p rest ih =>
    obtain ⟨⟨short, notDots⟩, others⟩ := List.forall_mem_cons.mp plain
    have above : done <+: place := ⟨p :: rest, whole⟩
    have next : done ++ [p] ++ rest = place := by rw [List.append_assoc]; exact whole
    rw [follow, entryAt_downTo above]
    simp only [if_neg (Nat.not_lt.mpr short), beq_iff_eq, if_neg notDots]
    exact ih next others

end Disk

/-- Directories inside each other, so deep that there is no room for another name. -/
def deepPlace : Place :=
  Text.ofString "tmp" :: List.replicate 16 (List.replicate 63 (CodePoint.ofChar '😀'))
    ++ [List.replicate 10 (CodePoint.ofChar '😀')]

def deepRoot : Text := Path.text ⟨"/", deepPlace⟩

def deepDisk : Disk := .downTo deepPlace

theorem deepRoot_projectAt : deepDisk.projectAt deepRoot = ⟨"/", deepPlace⟩ := by decide +kernel

theorem deepRoot_resolve :
    deepDisk.resolve (Path.ofText deepRoot) = .ok (deepDisk.projectAt deepRoot) := by
  have resolvable : (Path.ofText deepRoot).unresolvable? = none := by decide +kernel
  have absolute : (Path.ofText deepRoot).root.isEmpty = false := by decide +kernel
  rw [Disk.resolve, resolvable, absolute]
  rfl

theorem deepRoot_status :
    deepDisk.status (deepDisk.projectAt deepRoot) = .found deepPlace .directory := by
  have nameable : Path.unnameable? (Path.text ⟨"/", deepPlace⟩) = none := by decide +kernel
  have short : ¬ Path.limit < Path.sizeOf (Path.text ⟨"/", deepPlace⟩) := by decide +kernel
  have plain : ∀ p ∈ deepPlace, Path.sizeOf p ≤ Path.partLimit ∧ p ≠ Path.dots := by decide +kernel
  rw [deepRoot_projectAt, Disk.status, nameable]
  simp only [if_neg short]
  exact Disk.follow_downTo (List.nil_append deepPlace) plain

theorem deepRoot_noRoom : ∀ name ∈ specNames,
    deepDisk.status ((deepDisk.projectAt deepRoot).child name) = .tooLong := by
  have long : ∀ name ∈ specNames, Path.unnameable? (Path.child ⟨"/", deepPlace⟩ name).text = none
      ∧ Path.limit < Path.sizeOf (Path.child ⟨"/", deepPlace⟩ name).text := by decide +kernel
  intro name listed
  obtain ⟨nameable, beyond⟩ := long name listed
  rw [deepRoot_projectAt, Disk.status, nameable]
  exact if_pos beyond

/-- Nothing but directories is there, and yet the project is not skipped. -/
theorem deepRoot_not_skipped :
    deepDisk.IsBare deepRoot ∧ ¬ Report.ToleratesBare deepDisk deepRoot := by
  have bare : deepDisk.IsBare deepRoot := by
    refine ⟨deepRoot_resolve, ?_, fun name listed => ?_⟩
    · rw [Disk.holds, deepRoot_status]
      rfl
    · rw [Disk.holds, deepRoot_noRoom name listed]
  refine ⟨bare, fun tolerates => ?_⟩
  have nameless := Report.skips_iff.mp (tolerates.skips.mpr bare)
  have room := (Spec.discover_eq_none_iff.mp nameless).2
  exact room _ List.mem_cons_self (deepRoot_noRoom _ List.mem_cons_self)

end ExposureLint
