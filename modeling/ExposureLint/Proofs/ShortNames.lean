import Mathlib
import ExposureLint.Terminal.Markup

/-!
Short names of pictures in a text. A name that is read takes two colons, and a picture has none; so
a text has fewer colons when a picture comes into it, and without a picture it stays as it is.
-/
namespace ExposureLint.Emoji

/-- The short names that are read in a text, whether or not they have pictures. -/
def namesFrom : Nat → Text → List Text
  | _, [] => []
  | skip + 1, _ :: rest => namesFrom skip rest
  | 0, c :: rest =>
    match if isColon c then inside? rest else none with
    | some inside => inside :: namesFrom (inside.length + 1) rest
    | none => namesFrom 0 rest

def names (t : Text) : List Text := namesFrom 0 t

variable {t inside picture : Text} {c : CodePoint}

theorem table_noColon : ∀ entry ∈ table, 0x3A ∉ entry.2 := by decide +kernel

theorem entries_noColon : ∀ entry ∈ entries, ∀ c ∈ entry.2, isColon c = false := by
  intro entry among c there
  obtain ⟨written, listed, rfl⟩ := List.mem_map.mp among
  obtain ⟨n, given, made⟩ := List.mem_filterMap.mp there
  refine beq_eq_false_iff_ne.mpr fun colon => table_noColon written listed ?_
  unfold CodePoint.ofNat? at made
  split at made
  · cases made
    have same : n = 0x3A := congrArg CodePoint.val colon
    exact same ▸ given
  · cases made

theorem find?_noColon (found : find? t = some picture) : ∀ c ∈ picture, isColon c = false := by
  obtain ⟨before, after, shape, -⟩ := List.lookup_eq_some_iff.mp found
  exact entries_noColon (Text.lower t, picture) (by simp [shape])

theorem picture?_noColon (found : picture? inside = some picture) :
    ∀ c ∈ picture, isColon c = false := by
  unfold picture? at found
  split at found
  · rename_i ending form asked
    obtain ⟨bare, given, rfl⟩ := Option.map_eq_some_iff.mp found
    have plain : ∀ form ∈ forms, ∀ c ∈ form.2, isColon c = false := by decide
    exact List.forall_mem_append.mpr
      ⟨find?_noColon given, plain _ (List.mem_of_find?_eq_some asked)⟩
  · exact find?_noColon found

/-- A name of the table that asks for no form has a picture. -/
theorem picture?_ne_none {name : String} (listed : ∃ entry ∈ table, entry.1 = name)
    (plain : Text.lower (Text.ofString name) = Text.ofString name
      ∧ forms.all fun form => !(Text.ofString name).endsWith form.1) :
    picture? (Text.ofString name) ≠ none := by
  obtain ⟨entry, among, rfl⟩ := listed
  obtain ⟨lower, formless⟩ := plain
  have noForm : (forms.find? fun form => (Text.ofString entry.1).endsWith form.1) = none := by
    simpa using formless
  rw [picture?, noForm]
  simp only [find?, lower]
  rw [ne_eq, List.lookup_eq_none_iff]
  intro other
  exact absurd (other _ (List.mem_map_of_mem among)) (by simp)

theorem of_inside? (read : inside? t = some inside) :
    inside ++ CodePoint.ofChar ':' :: t.drop (inside.length + 1) = t
      ∧ ∀ c ∈ inside, isColon c = false := by
  simp only [inside?] at read
  split at read
  · rename_i ended
    obtain rfl := Option.some.inj read
    refine ⟨?_, fun c there => ?_⟩
    · obtain ⟨c, next, colon⟩ := (Option.any_eq_true _ _).mp ended
      obtain rfl : c = CodePoint.ofChar ':' := beq_iff_eq.mp colon
      obtain ⟨more, rest⟩ := List.head?_eq_some_iff.mp next
      have behind := congrArg (List.drop 1) rest
      rw [List.drop_drop] at behind
      rw [behind, List.drop_succ_cons, List.drop_zero, ← rest]
      exact List.prefix_iff_eq_append.mp (List.takeWhile_prefix _)
    · have kept := List.mem_takeWhile_imp there
      simp only [Bool.and_eq_true, Bool.not_eq_true'] at kept
      exact kept.1
  · cases read

theorem names_append {s : Text} (free : ∀ c ∈ s, isColon c = false) (t : Text) :
    names (s ++ t) = names t := by
  induction s with
  | nil => rfl
  | cons c rest ih =>
    obtain ⟨here, there⟩ := List.forall_mem_cons.mp free
    have none : (if isColon c then inside? (rest ++ t) else none) = none := by simp [here]
    rw [List.cons_append, names]
    simp only [namesFrom, none]
    exact ih there

/-- Every picture takes the place of two colons. -/
theorem colons_replaceFrom (skip : Nat) (t : Text) :
    (replaceFrom skip t).countP isColon
        + 2 * (namesFrom skip t).countP (fun name => (picture? name).isSome)
      = (t.drop skip).countP isColon := by
  induction t generalizing skip with
  | nil => cases skip <;> rfl
  | cons c rest ih =>
    cases skip with
    | succ skip => exact ih skip
    | zero =>
      rw [List.drop_zero]
      cases read : if isColon c then inside? rest else none with
      | none =>
        have later := ih 0
        simp only [replaceFrom, namesFrom, read, List.countP_cons, List.drop_zero] at later ⊢
        omega
      | some inside =>
        obtain ⟨colon, named⟩ := Option.ite_none_right_eq_some.mp read
        obtain ⟨whole, free⟩ := of_inside? named
        have later := ih (inside.length + 1)
        have inName : inside.countP isColon = 0 := List.countP_eq_zero.mpr fun d there => by
          simp [free d there]
        have colons : rest.countP isColon = 1 + (rest.drop (inside.length + 1)).countP isColon := by
          conv_lhs => rw [← whole]
          rw [List.countP_append, List.countP_cons_of_pos rfl, inName]
          omega
        simp only [replaceFrom, namesFrom, read, List.countP_append, List.countP_cons_of_pos colon]
        cases found : picture? inside with
        | none =>
          rw [List.countP_cons_of_neg (by simp [found])]
          have kept : (Text.ofString ":" ++ inside ++ Text.ofString ":").countP isColon = 2 := by
            simp [Text.ofString, inName, isColon]
          simp only [Option.getD_none, kept]
          omega
        | some picture =>
          rw [List.countP_cons_of_pos (by simp [found])]
          have none : picture.countP isColon = 0 := List.countP_eq_zero.mpr fun d there => by
            simp [picture?_noColon found d there]
          simp only [Option.getD_some, none]
          omega

theorem replaceFrom_eq_drop {skip : Nat} {t : Text}
    (plain : ∀ name ∈ namesFrom skip t, picture? name = none) :
    replaceFrom skip t = t.drop skip := by
  induction t generalizing skip with
  | nil => cases skip <;> rfl
  | cons c rest ih =>
    cases skip with
    | succ skip => exact ih plain
    | zero =>
      cases read : if isColon c then inside? rest else none with
      | none =>
        simp only [replaceFrom, namesFrom, read] at plain ⊢
        rw [ih plain]
        rfl
      | some inside =>
        obtain ⟨colon, named⟩ := Option.ite_none_right_eq_some.mp read
        simp only [replaceFrom, namesFrom, read, List.forall_mem_cons] at plain ⊢
        rw [plain.1, ih plain.2, Option.getD_none]
        conv_rhs => rw [← (of_inside? named).1]
        obtain rfl := beq_iff_eq.mp colon
        simp [Text.ofString]

/-- A text keeps its colons just when none of its names has a picture, and then it keeps all. -/
theorem colons_replace_eq_iff : (replace t).countP isColon = t.countP isColon
    ↔ ∀ name ∈ names t, picture? name = none := by
  have colons := colons_replaceFrom 0 t
  rw [List.drop_zero, ← replace, ← names] at colons
  constructor
  · intro same name there
    have none : (names t).countP (fun name => (picture? name).isSome) = 0 := by omega
    simpa using List.countP_eq_zero.mp none name there
  · intro plain
    rw [replace, replaceFrom_eq_drop plain, List.drop_zero]

theorem replace_eq_self (plain : ∀ name ∈ names t, picture? name = none) : replace t = t :=
  replaceFrom_eq_drop plain

theorem colons_replace_le (t : Text) : (replace t).countP isColon ≤ t.countP isColon := by
  have colons := colons_replaceFrom 0 t
  rw [List.drop_zero, ← replace] at colons
  omega

end ExposureLint.Emoji
