import Mathlib
import ExposureLint.Proofs.DistinctKeys
import ExposureLint.Proofs.Entries
import ExposureLint.Proofs.SettingsFailure

/-!
Which records give which settings, and which section a file of settings has. A record is read
without fault exactly when each of its fields is and it has no other.
-/
namespace ExposureLint

namespace Record
variable {α β : Type} {read : Value → Reading α} {otherwise x : α}

/-- What a field gives whose value is `found`, if it is there. -/
inductive Reads (read : Value → Reading α) (otherwise : α) : Option Value → α → Prop
  | written {v : Value} {x : α} (good : read v = .ok x) : Reads read otherwise (some v) x
  | missing : Reads read otherwise none otherwise

theorem reads_some_iff {v : Value} : Reads read otherwise (some v) x ↔ read v = .ok x :=
  ⟨fun reads => by cases reads; assumption, .written⟩

theorem reads_none_iff : Reads read otherwise none x ↔ x = otherwise :=
  ⟨fun reads => by cases reads; rfl, fun same => same ▸ .missing⟩

theorem Reads.unique {found : Option Value} {y : α} (first : Reads read otherwise found x)
    (second : Reads read otherwise found y) : x = y := by
  cases first with
  | written good => exact Except.ok.inj (good.symm.trans (reads_some_iff.mp second))
  | missing => exact (reads_none_iff.mp second).symm

theorem Collected.both_eq_pure_iff {f : Collected (α → β)} {c : Collected α} {b : β} :
    f.both c = .pure b ↔ ∃ g a, f = .pure g ∧ c = .pure a ∧ g a = b := by
  obtain ⟨value, faults⟩ := f
  obtain ⟨value', faults'⟩ := c
  cases value with
  | none => simp [Collected.both, Collected.pure]
  | some g =>
    cases value' with
    | none => simp [Collected.both, Collected.pure]
    | some a =>
      simp only [Collected.both, Collected.pure, Collected.mk.injEq, Option.some.injEq,
        List.append_eq_nil_iff]
      constructor
      · rintro ⟨made, none, none'⟩
        exact ⟨g, a, ⟨rfl, none⟩, ⟨rfl, none'⟩, made⟩
      · rintro ⟨g, a, ⟨rfl, none⟩, ⟨rfl, none'⟩, made⟩
        exact ⟨made, none, none'⟩

theorem Collected.more_eq_pure_iff {c : Collected α} {more : List Fault} :
    ({ c with faults := c.faults ++ more } : Collected α) = .pure x ↔ c = .pure x ∧ more = [] := by
  obtain ⟨value, faults⟩ := c
  simp [Collected.pure, and_assoc]

theorem optional_eq_pure_iff {entries : List (Scalar × Value)} {name : String} :
    optional (.map entries) name otherwise read = .pure x
      ↔ Reads read otherwise (Value.find? (.text name) entries) x := by
  have whole : (Value.map entries).entries?.getD [] = entries := rfl
  simp only [optional, whole]
  cases Value.find? (.text name) entries with
  | none => simp [reads_none_iff, Collected.pure, eq_comm]
  | some v =>
    dsimp only
    rw [reads_some_iff]
    cases read v with
    | ok a => simp [Collected.ofReading, Collected.pure]
    | error rule => simp [Collected.ofReading, Collected.pure]

theorem finish_eq_ok_iff {model : Text} {entries : List (Scalar × Value)} {c : Collected α} :
    finish model (.map entries) c = .ok x ↔ c = .pure x := by
  obtain ⟨value, faults⟩ := c
  have whole : (Value.map entries).entries?.isNone = false := rfl
  cases value <;> cases faults <;> simp [finish, whole, Collected.pure]

def IsNamed (names : List String) (k : Scalar) : Prop :=
  ∃ name ∈ names, k = .text (Text.ofString name)

/-- A record has no unknown key exactly when the names of its fields are all that it has. -/
theorem unknownKeys_eq_nil_iff {entries : List (Scalar × Value)} {fields : List String}
    (named : ∀ f ∈ fields, (Text.ofString f).isWellFormed = true) :
    unknownKeys (.map entries) fields = []
      ↔ ∀ e ∈ entries, IsNamed fields e.1 := by
  have whole : (Value.map entries).entries?.getD [] = entries := rfl
  rw [unknownKeys, whole, List.filterMap_eq_nil_iff]
  refine forall₂_congr fun e _ => ?_
  obtain ⟨k, v⟩ := e
  cases k with
  | text t =>
    simp only [IsNamed, Scalar.text.injEq]
    constructor
    · intro known
      split at known
      · cases known
      · split at known
        · rename_i _ listed
          simpa using listed
        · cases known
    · rintro ⟨f, listed, rfl⟩
      rw [if_neg (by simp [named f listed]), if_pos (by simpa using ⟨f, listed, rfl⟩)]
  | _ => simp [IsNamed]

end Record

namespace OutputFormat

theorem ofName?_eq_some_iff {name : Text} {f : OutputFormat} :
    ofName? name = some f ↔ f.name = name := by
  constructor
  · intro found
    exact eq_of_beq (List.find?_some (p := fun f : OutputFormat => f.name == name) found)
  · rintro rfl
    cases f <;> decide

end OutputFormat

namespace Settings
open Record

theorem readFormat_eq_ok_iff {v : Value} {f : OutputFormat} :
    readFormat v = .ok f ↔ ∃ t, readText v = .ok t ∧ f.name = Text.lower t := by
  unfold readFormat
  rw [bind_eq_ok_iff]
  refine exists_congr fun t => and_congr_right fun _ => ?_
  dsimp only
  rw [← OutputFormat.ofName?_eq_some_iff]
  cases OutputFormat.ofName? (Text.lower t) with
  | none => simp [throw, throwThe, MonadExceptOf.throw]
  | some g => simp [pure, Except.pure]

theorem reads_format_iff {found : Option Value} {f : OutputFormat} :
    Reads readFormat .auto found f
      ↔ ∃ t, Reads readText (Text.ofString "auto") found t ∧ f.name = Text.lower t := by
  cases found with
  | some v => simp only [reads_some_iff, readFormat_eq_ok_iff]
  | none =>
    simp only [reads_none_iff, exists_eq_left]
    cases f <;> simp <;> decide

theorem ofRecord_eq_ok_iff {entries : List (Scalar × Value)} {s : Settings} :
    ofRecord (.map entries) = .ok s
      ↔ Reads readText (Text.ofString ".") (Value.find? (.text "project_root") entries) s.root
        ∧ Reads readBool false (Value.find? (.text "strict") entries) s.strict
        ∧ Reads readBool false (Value.find? (.text "allow_missing_spec") entries) s.allowMissing
        ∧ Reads readFormat .auto (Value.find? (.text "output_format") entries) s.format
        ∧ ∀ e ∈ entries, IsNamed fields e.1 := by
  have known : unknownKeys (.map entries) fields = [] ↔ _ := unknownKeys_eq_nil_iff (by decide)
  simp only [ofRecord, finish_eq_ok_iff, Collected.more_eq_pure_iff, known,
    Collected.both_eq_pure_iff, optional_eq_pure_iff]
  constructor
  · rintro ⟨⟨_, format, ⟨_, allow, ⟨_, strict, ⟨_, root, made, readRoot, rfl⟩, readStrict, rfl⟩,
      readAllow, rfl⟩, readFormat, rfl⟩, listed⟩
    cases made
    exact ⟨readRoot, readStrict, readAllow, readFormat, listed⟩
  · rintro ⟨readRoot, readStrict, readAllow, readFormat, listed⟩
    exact ⟨⟨_, s.format, ⟨_, s.allowMissing, ⟨_, s.strict, ⟨_, s.root, rfl, readRoot, rfl⟩,
      readStrict, rfl⟩, readAllow, rfl⟩, readFormat, rfl⟩, listed⟩

theorem find?_override_self {name : String} {value : Option Value}
    {entries : List (Scalar × Value)} :
    Value.find? (.text name) (override name value entries)
      = value.or (Value.find? (.text name) entries) := by
  cases value with
  | none => rfl
  | some v => exact Value.find?_put_self

theorem find?_override_of_ne {name other : String} {value : Option Value}
    {entries : List (Scalar × Value)} (differ : Text.ofString name ≠ Text.ofString other) :
    Value.find? (.text name) (override other value entries) = Value.find? (.text name) entries := by
  unfold override
  split
  · exact Value.find?_put_of_ne differ
  · rfl

/-- Putting a field over others brings no key but its own, and takes none away. -/
theorem forall_keys_override {K : Scalar → Prop} {name : String} {value : Option Value}
    {entries : List (Scalar × Value)} (own : K (.text name)) :
    (∀ e ∈ override name value entries, K e.1) ↔ ∀ e ∈ entries, K e.1 := by
  cases value with
  | none => rfl
  | some v =>
    show (∀ e ∈ Value.put (.text name) v entries, K e.1) ↔ _
    induction entries with
    | nil => simpa [Value.put] using own
    | cons e rest ih =>
      rw [Value.put]
      split
      · simp only [List.forall_mem_cons]
      · simp only [List.forall_mem_cons, ih]

def Holds [Host] (disk : Disk) (root : Text) (value : Value) : Prop :=
  disk.isFile (fileIn root) = .ok true
    ∧ ∃ whole, disk.readText (fileIn root) = .ok whole
      ∧ Yaml.read (Host.yamlRoom whole) whole = .ok value

/-- The fields of the section as they are written: none where the file, its content or the section
is missing. -/
inductive Section [Host] (disk : Disk) (root : Text) : List (Scalar × Value) → Prop
  | noFile (missing : disk.isFile (fileIn root) = .ok false) : Section disk root []
  | noContent {value : Value} (holds : Holds disk root value) (null : value.isNull = true) :
      Section disk root []
  | noSection {value : Value} {entries : List (Scalar × Value)} (holds : Holds disk root value)
      (mapping : value.entries? = some entries)
      (missing : Spec.field? entries sectionName = none) : Section disk root []
  | noFields {value found : Value} {entries : List (Scalar × Value)}
      (holds : Holds disk root value) (mapping : value.entries? = some entries)
      (there : Spec.field? entries sectionName = some found) (null : found.isNull = true) :
      Section disk root []
  | written {value found : Value} {entries fields : List (Scalar × Value)}
      (holds : Holds disk root value) (mapping : value.entries? = some entries)
      (there : Spec.field? entries sectionName = some found)
      (inner : found.entries? = some fields) : Section disk root fields

variable [Host] {disk : Disk} {root : Text} {value : Value} {fields : List (Scalar × Value)}

omit [Host] in
theorem not_isNull_of_entries? {v : Value} (mapping : v.entries? = some fields) :
    ¬ v.isNull = true := by
  intro null
  unfold Value.isNull at null
  split at null
  · cases mapping
  · cases null

theorem Holds.loadSection (holds : Holds disk root value) :
    loadSection disk root = sectionOf (fileIn root) value := by
  obtain ⟨isFile, whole, held, read⟩ := holds
  rw [loadSection_of_text rfl isFile held, Format.read, read]
  rfl

/-- A section is loaded as it is written, unless it has a root of its own. -/
theorem Section.loadSection (has : Section disk root fields) :
    loadSection disk root = if (Spec.field? fields "project_root").isSome
      then refuse (.rootInside (fileIn root)) else .ok fields := by
  cases has with
  | noFile missing => exact loadSection_of_missing rfl missing
  | noContent holds null =>
    rw [holds.loadSection, sectionOf, if_pos null]
    rfl
  | noSection holds mapping missing =>
    rw [holds.loadSection, sectionOf, if_neg (not_isNull_of_entries? mapping), mapping]
    simp only [missing]
    rfl
  | noFields holds mapping there null =>
    rw [holds.loadSection, sectionOf, if_neg (not_isNull_of_entries? mapping), mapping]
    simp only [there, null]
    rfl
  | written holds mapping there inner =>
    rw [holds.loadSection, sectionOf, if_neg (not_isNull_of_entries? mapping), mapping]
    simp only [there, if_neg (not_isNull_of_entries? inner), inner]

theorem sectionOf_eq_ok (holds : Holds disk root value)
    (found : sectionOf (fileIn root) value = .ok fields) :
    Section disk root fields ∧ Spec.field? fields "project_root" = none := by
  unfold sectionOf at found
  split at found
  · rename_i null
    cases found
    exact ⟨.noContent holds null, rfl⟩
  split at found
  · cases found
  rename_i entries mapping
  split at found
  · rename_i missing
    cases found
    exact ⟨.noSection holds mapping missing, rfl⟩
  rename_i inside there
  split at found
  · rename_i null
    cases found
    exact ⟨.noFields holds mapping there null, rfl⟩
  split at found
  · cases found
  rename_i inner
  split at found
  · cases found
  · rename_i noRoot
    cases found
    exact ⟨.written holds mapping there inner, by simpa using noRoot⟩

theorem section_of_loadSection (loaded : loadSection disk root = .ok fields) :
    Section disk root fields ∧ Spec.field? fields "project_root" = none := by
  cases known : disk.isFile (fileIn root) with
  | error fault =>
    rw [loadSection_of_fault rfl known] at loaded
    cases loaded
  | ok there =>
    cases there with
    | false =>
      rw [loadSection_of_missing rfl known] at loaded
      cases loaded
      exact ⟨.noFile known, rfl⟩
    | true =>
      obtain ⟨place, content, found⟩ := Disk.isFile_true_iff.mp known
      have text := Disk.readText_of_found found
      cases decoded : Utf8.decode content with
      | error fault =>
        rw [decoded] at text
        rw [loadSection_of_unreadable rfl known text] at loaded
        cases loaded
      | ok t =>
        rw [decoded] at text
        rw [loadSection_of_text rfl known text] at loaded
        obtain ⟨value, read, inside⟩ := bind_eq_ok_iff.mp loaded
        have holds : Holds disk root value :=
          ⟨known, _, text, Format.read_yaml_eq_ok_iff.mp (mapError_eq_ok_iff.mp read)⟩
        exact sectionOf_eq_ok holds inside

theorem Section.distinct (has : Section disk root fields) : Value.DistinctKeys fields := by
  cases has with
  | written holds mapping there inner =>
    obtain ⟨-, whole, -, read⟩ := holds
    -- the whole file has distinct keys at every depth, so its section has
    have keyed := Format.read_isKeyed (Format.read_yaml_eq_ok_iff.mpr read)
    have below := (Value.entries?_keyed keyed mapping).2
    obtain ⟨e, listed, rfl⟩ := Option.map_eq_some_iff.mp there
    exact (Value.entries?_keyed (below e (List.mem_of_find?_eq_some listed)) inner).1
  | _ => exact List.Pairwise.nil

end Settings
end ExposureLint
