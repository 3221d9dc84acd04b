import Mathlib
import ExposureLint.Operation
import ExposureLint.Proofs.Sorting
import ExposureLint.Text.Upper

/-!
Which texts name a method. Lower case is taken over all scripts, but no letter beyond the Latin
alphabet without accents becomes a letter of a method, so a key names a method exactly when it is
the method's key up to the case of such letters. Its upper case, over all scripts too, is then the
method's verb, although letters of other scripts may have Latin capitals.
-/
namespace ExposureLint

namespace CodePoint

theorem val_ofChar_ofNat {n : Nat} (ascii : n < 0x80) : (ofChar (Char.ofNat n)).val = n := by
  have valid : n.isValidChar := Or.inl (by omega)
  change (Char.ofNat n).toNat = n
  rw [Char.toNat_ofNat, if_pos valid]

/-- The least small letter that a run of capitals leads to, unless the run is the Kelvin sign. -/
theorem capitalRuns_lead_beyond : ∀ r ∈ capitalRuns, 0x80 ≤ r.1 →
    0x80 ≤ (r.1 + r.2.2.2).toNat ∨ r.1 = 0x212A ∧ r.2.1 = 0x212A ∧ r.2.2.2 = -8383 := by
  decide +kernel

theorem capitalRuns_below_ascii : ∀ r ∈ capitalRuns, r.1 < 0x80 → r.2.1 < 0x80 := by
  decide +kernel

theorem lower_val_of_lt {c : CodePoint} (ascii : c.val < 0x80) :
    c.lower.val = if c.isAsciiUpper then c.val + 0x20 else c.val := by
  simp only [lower, ascii, if_true]
  split
  · have fits : c.val + 0x20 < 0x110000 := by omega
    simp [ofNat?, fits]
  · rfl

/-- Beyond the first 128 code points only the Kelvin sign has a small letter among them. -/
theorem lower_val_of_le {c : CodePoint} (beyond : 0x80 ≤ c.val) :
    0x80 ≤ c.lower.val ∨ c.lower.val = 0x6B := by
  have notAscii : ¬ c.val < 0x80 := by omega
  simp only [lower, along, notAscii, if_false]
  split
  · rename_i r found
    have holds := List.find?_some found
    simp only [Bool.and_eq_true, decide_eq_true_eq] at holds
    have starts : 0x80 ≤ r.1 := by
      by_contra low
      have := capitalRuns_below_ascii r (List.mem_of_find?_eq_some found) (by omega)
      omega
    rcases capitalRuns_lead_beyond r (List.mem_of_find?_eq_some found) starts with far | kelvin
    · left
      cases made : ofNat? (c.val + r.2.2.2).toNat with
      | none => simpa using beyond
      | some d =>
        have value : d.val = (c.val + r.2.2.2).toNat := by
          unfold ofNat? at made
          split at made
          · cases made
            rfl
          · cases made
        simp only [Option.getD_some, value]
        omega
    · right
      have here : c.val = 0x212A := by omega
      simp [here, kelvin.2.2, ofNat?]
  · exact Or.inl beyond

theorem upper_of_lt {c : CodePoint} (ascii : c.val < 0x80) :
    c.upper = [if c.isAsciiLower then ofChar (Char.ofNat (c.val - 0x20)) else c] := by
  simp only [upper, ascii, if_true, List.cons.injEq, and_true]
  split
  · have fits : c.val - 0x20 < 0x110000 := by omega
    apply eq_of_val_eq
    rw [val_ofChar_ofNat (by omega)]
    simp [ofNat?, fits]
  · rfl

def IsMethodLetter (c : CodePoint) : Prop := c.val < 0x80 ∧ c.val ≠ 0x6B

instance (c : CodePoint) : Decidable c.IsMethodLetter :=
  inferInstanceAs (Decidable (c.val < 0x80 ∧ c.val ≠ 0x6B))

end CodePoint

namespace Text

open CodePoint

theorem lowerAscii_cons (c : CodePoint) (t : Text) : lowerAscii (c :: t)
    = (if c.isAsciiUpper then ofChar (Char.ofNat (c.val + 0x20)) else c) :: lowerAscii t :=
  rfl

theorem lower_eq_lowerAscii_of_lt {c : CodePoint} (ascii : c.val < 0x80) :
    c.lower = if c.isAsciiUpper then ofChar (Char.ofNat (c.val + 0x20)) else c := by
  apply eq_of_val_eq
  rw [lower_val_of_lt ascii]
  split
  · rename_i capital
    simp only [isAsciiUpper, Bool.and_eq_true, decide_eq_true_eq] at capital
    exact (val_ofChar_ofNat (by omega)).symm
  · rfl

theorem lowerFrom_cons_of_lt (before : Text) {c : CodePoint} (t : Text) (ascii : c.val < 0x80) :
    lowerFrom before (c :: t) = c.lower :: lowerFrom (c :: before) t := by
  have notDotted : (c.val == 0x130) = false := by simp; omega
  have notSigma : (c.val == 0x3A3) = false := by simp; omega
  simp [lowerFrom, notDotted, notSigma]

/-- The dotted capital I leaves a dot behind, and sigma stays Greek. -/
theorem lowerFrom_cons_of_le (before : Text) {c : CodePoint} (t : Text) (beyond : 0x80 ≤ c.val) :
    ∃ d ∈ lowerFrom before (c :: t), ¬ IsMethodLetter d := by
  simp only [lowerFrom]
  split
  · exact ⟨ofChar '\u0307', by simp, by decide⟩
  · split
    · split
      · exact ⟨ofChar 'ς', by simp, by decide⟩
      · exact ⟨ofChar 'σ', by simp, by decide⟩
    · refine ⟨c.lower, by simp, fun letter => ?_⟩
      rcases lower_val_of_le beyond with far | kelvin
      · exact absurd letter.1 (by omega)
      · exact letter.2 kelvin

theorem lowerFrom_eq_iff (before : Text) {t w : Text} (letters : ∀ c ∈ w, IsMethodLetter c) :
    lowerFrom before t = w ↔ t.lowerAscii = w := by
  induction t generalizing before w with
  | nil => rfl
  | cons c t ih =>
    by_cases ascii : c.val < 0x80
    · rw [lowerFrom_cons_of_lt before t ascii, lowerAscii_cons, lower_eq_lowerAscii_of_lt ascii]
      cases w with
      | nil => simp
      | cons d w =>
        have rest := ih (c :: before) fun x hx => letters x (List.mem_cons_of_mem d hx)
        simp only [List.cons.injEq, rest]
    · have beyond : 0x80 ≤ c.val := by omega
      have notUpper : c.isAsciiUpper = false := by
        simp only [isAsciiUpper, Bool.and_eq_false_iff, decide_eq_false_iff_not]
        omega
      constructor
      · rintro rfl
        obtain ⟨d, hd, stranger⟩ := lowerFrom_cons_of_le before t beyond
        exact absurd (letters d hd) stranger
      · intro same
        rw [lowerAscii_cons, notUpper] at same
        have letter := letters c (by simp [← same])
        exact absurd letter.1 ascii

theorem upperAscii_lowerAscii (t : Text) : t.lowerAscii.upperAscii = t.upperAscii := by
  simp only [upperAscii, lowerAscii, List.map_map]
  apply List.map_congr_left
  intro c _
  by_cases capital : c.isAsciiUpper = true
  · have range := capital
    simp only [isAsciiUpper, Bool.and_eq_true, decide_eq_true_eq] at range
    have value : (ofChar (Char.ofNat (c.val + 0x20))).val = c.val + 0x20 :=
      val_ofChar_ofNat (by omega)
    have becomesSmall : (ofChar (Char.ofNat (c.val + 0x20))).isAsciiLower = true := by
      simp only [isAsciiLower, value, Bool.and_eq_true, decide_eq_true_eq]
      omega
    have notSmall : c.isAsciiLower = false := by
      simp only [isAsciiLower, Bool.and_eq_false_iff, decide_eq_false_iff_not]
      omega
    apply eq_of_val_eq
    simp only [Function.comp, capital, if_true, becomesSmall, notSmall, value, Nat.add_sub_cancel]
    exact val_ofChar_ofNat (by omega)
  · simp only [Function.comp, capital, Bool.false_eq_true, if_false]

theorem upper_eq_upperAscii {t : Text} (ascii : ∀ c ∈ t, c.val < 0x80) :
    t.upper = t.upperAscii := by
  induction t with
  | nil => rfl
  | cons c t ih =>
    obtain ⟨here, rest⟩ := List.forall_mem_cons.mp ascii
    rw [upper, List.flatMap_cons, upper_of_lt here, ← upper, ih rest]
    rfl

/-- No letter of another script takes part in a text that small letters make a method. -/
theorem lt_of_lowerAscii {t : Text} (letters : ∀ d ∈ t.lowerAscii, IsMethodLetter d) :
    ∀ c ∈ t, c.val < 0x80 := by
  intro c there
  have letter := letters _ (List.mem_map_of_mem there)
  by_cases capital : c.isAsciiUpper = true
  · simp only [isAsciiUpper, Bool.and_eq_true, decide_eq_true_eq] at capital
    omega
  · rw [if_neg capital] at letter
    exact letter.1

end Text

namespace Method

theorem key_letters (m : Method) : ∀ c ∈ m.key, c.IsMethodLetter := by
  cases m <;> decide

theorem ofKey?_eq_some_iff {key : Text} {m : Method} : ofKey? key = some m ↔ key = m.key := by
  constructor
  · intro found
    have same := List.find?_some (show all.find? (fun m => m.key == key) = some m from found)
    exact (eq_of_beq same).symm
  · rintro rfl
    cases m <;> decide

theorem ofVerb?_verb (m : Method) : ofVerb? m.verb = some m := by
  cases m <;> decide

/-- A text names a method in any case of its Latin letters and in no other way. -/
theorem ofKey?_lower_eq_some_iff {t : Text} {m : Method} :
    ofKey? t.lower = some m ↔ t.lowerAscii = m.key := by
  rw [ofKey?_eq_some_iff]
  exact Text.lowerFrom_eq_iff [] m.key_letters

/-- A text in lower case names a method, and in upper case it is the method's verb. -/
theorem upperAscii_eq_verb {t : Text} {m : Method} (named : t.lowerAscii = m.key) :
    t.upperAscii = m.verb := by
  rw [← Text.upperAscii_lowerAscii, named]
  rfl

theorem upper_eq_upperAscii {t : Text} {m : Method} (named : t.lowerAscii = m.key) :
    t.upper = t.upperAscii :=
  Text.upper_eq_upperAscii (Text.lt_of_lowerAscii (named ▸ m.key_letters))

/-- Upper case alone would not do: the long s has a Latin capital, but it is a small letter. -/
example : Text.upper "poſt" = Method.post.verb ∧ ofKey? (Text.lower "poſt") = none := by
  decide +kernel

end Method
end ExposureLint
