import Mathlib
import ExposureLint.Json.Reader
import ExposureLint.Proofs.Shown

/-!
Numbers of JSON texts. What the grammar takes for a number is a numeral, so reading it fails only
where an integer has more digits than the limit, and an integer that is read has a text.
-/
namespace ExposureLint

theorem tenTo_eq (n : Nat) : tenTo n = 10 ^ n := rfl

namespace Text

def IsDigits (t : Text) : Prop := t ≠ [] ∧ ∀ c ∈ t, c.isAsciiDigit = true

theorem ofNat_eq (n : Nat) : ofNat n = (Nat.toDigits 10 n).map CodePoint.ofChar :=
  congrArg (List.map CodePoint.ofChar) String.toList_ofList

theorem isAsciiDigit_of_mem_ofNat {n : Nat} {c : CodePoint} (there : c ∈ ofNat n) :
    c.isAsciiDigit = true := by
  rw [ofNat_eq] at there
  obtain ⟨d, among, rfl⟩ := List.mem_map.mp there
  have digit := Char.isDigit_iff_toNat.mp (Nat.isDigit_of_mem_toDigits (by decide) (by decide) among)
  have range : (CodePoint.ofChar d).val = d.toNat := rfl
  simpa [CodePoint.isAsciiDigit, range] using digit

theorem isDigits_ofNat (n : Nat) : (ofNat n).IsDigits := by
  constructor
  · rw [ofNat_eq]
    simp
  · intro c there
    exact isAsciiDigit_of_mem_ofNat there

end Text

namespace Numeral

/-- The sign in front of a number, where only minus is written. -/
def minus (negative : Bool) : Text := if negative then ['-'] else []

theorem digitValue?_of_ascii {c : CodePoint} (digit : c.isAsciiDigit = true) :
    c.digitValue? = some (c.val - 0x30) := by
  simp [CodePoint.digitValue?, digit]

theorem digit?_of_ascii {c : CodePoint} (digit : c.isAsciiDigit = true) :
    ∃ d < 10, digit? 10 c = some d := by
  have range := digit
  simp only [CodePoint.isAsciiDigit, Bool.and_eq_true, decide_eq_true_eq] at range
  have small : c.val - 0x30 < 10 := by omega
  exact ⟨c.val - 0x30, small, by simp [digit?, digitValue?_of_ascii digit, small]⟩

theorem value?_of_digits {n : Nat} {t : Text} (digits : ∀ c ∈ t, c.isAsciiDigit = true) :
    ∃ m, value? 10 n t = some m ∧ m < (n + 1) * 10 ^ t.length := by
  induction t generalizing n with
  | nil => exact ⟨n, rfl, by simp⟩
  | cons c rest ih =>
    obtain ⟨here, there⟩ := List.forall_mem_cons.mp digits
    obtain ⟨d, small, read⟩ := digit?_of_ascii here
    obtain ⟨m, more, bound⟩ := ih (n := n * 10 + d) there
    refine ⟨m, by simp [value?, read, more], ?_⟩
    calc m < (n * 10 + d + 1) * 10 ^ rest.length := bound
      _ ≤ ((n + 1) * 10) * 10 ^ rest.length := Nat.mul_le_mul_right _ (by omega)
      _ = (n + 1) * 10 ^ (c :: rest).length := by rw [List.length_cons, Nat.pow_succ]; ring

theorem not_isPadding {c : CodePoint} (visible : 0x21 ≤ c.val ∧ c.val < 0x7F) :
    isPadding c = false := by
  have notBlank : c.isBlank = false := by
    simp only [CodePoint.isBlank, Bool.or_eq_false_iff, Bool.and_eq_false_iff,
      decide_eq_false_iff_not, beq_eq_false_iff_ne]
    omega
  simp [isPadding, notBlank]

theorem unpadded_eq {t : Text} (visible : ∀ c ∈ t, 0x21 ≤ c.val ∧ c.val < 0x7F) :
    unpadded t = t := by
  have start : t.dropWhile isPadding = t := by
    cases t with
    | nil => rfl
    | cons c rest => simp [not_isPadding (visible c List.mem_cons_self)]
  have back : t.reverse.dropWhile isPadding = t.reverse := by
    cases last : t.reverse with
    | nil => rfl
    | cons c rest =>
      have inside : c ∈ t := List.mem_reverse.mp (last ▸ List.mem_cons_self)
      simp [not_isPadding (visible c inside)]
  rw [unpadded, start, Text.dropEndWhile, back, List.reverse_reverse]

theorem visible_of_digit {c : CodePoint} (digit : c.isAsciiDigit = true) :
    0x21 ≤ c.val ∧ c.val < 0x7F := by
  simp only [CodePoint.isAsciiDigit, Bool.and_eq_true, decide_eq_true_eq] at digit
  omega

theorem beq_of_digit {c d : CodePoint} (digit : c.isAsciiDigit = true)
    (other : d.isAsciiDigit = false) : (c == d) = false := by
  refine beq_eq_false_iff_ne.mpr ?_
  rintro rfl
  exact absurd digit (by simp [other])

theorem sign_minus (negative : Bool) {t : Text} (digits : t.IsDigits) (rest : Text) :
    sign (minus negative ++ (t ++ rest)) = (negative, t ++ rest) := by
  obtain ⟨c, more, rfl⟩ := List.exists_cons_of_ne_nil digits.1
  have digit := digits.2 c List.mem_cons_self
  have notMinus : (c == CodePoint.ofChar '-') = false := beq_of_digit digit (by decide)
  have notPlus : (c == CodePoint.ofChar '+') = false := beq_of_digit digit (by decide)
  cases negative with
  | true => rfl
  | false => simp [minus, sign, notMinus, notPlus]

theorem withoutMark_ten (t : Text) : withoutMark 10 t = t := by
  match t with
  | [] => rfl
  | [_] => rfl
  | z :: m :: rest => simp [withoutMark, baseMark, CodePoint.isIn]

theorem visible_minus (negative : Bool) {t : Text}
    (visible : ∀ c ∈ t, 0x21 ≤ c.val ∧ c.val < 0x7F) :
    ∀ c ∈ minus negative ++ t, 0x21 ≤ c.val ∧ c.val < 0x7F := by
  refine List.forall_mem_append.mpr ⟨?_, visible⟩
  cases negative <;> decide

/-- More digits than the limit allows, and nothing else, is wrong with an integer. -/
def IsTooLong (f : Fault) : Prop := ∃ count, digitLimit < count ∧ f = .tooManyDigits count

/-- Digits behind a sign write an integer, unless there are too many of them. -/
theorem readInt_of_digits (negative : Bool) {t : Text} (digits : t.IsDigits) {n : Nat}
    (value : value? 10 0 t = some n) :
    readInt 10 (minus negative ++ t) = if digitLimit < t.length
      then .error (.tooManyDigits t.length) else .ok (if negative then -(n : Int) else n) := by
  have unpad : unpadded (minus negative ++ t) = minus negative ++ t :=
    unpadded_eq (visible_minus negative fun c hc => visible_of_digit (digits.2 c hc))
  have signed : sign (minus negative ++ t) = (negative, t) := by
    simpa using sign_minus negative digits []
  have all : t.takeWhile (fun c => (digit? 10 c).isSome) = t := by
    refine List.takeWhile_eq_self_iff.mpr fun c hc => ?_
    obtain ⟨d, -, read⟩ := digit?_of_ascii (digits.2 c hc)
    simp [read]
  obtain ⟨c, rest, shape⟩ := List.exists_cons_of_ne_nil digits.1
  rw [readInt, unpad, signed]
  simp only [withoutMark_ten, all, beq_self_eq_true, Bool.true_and, decide_eq_true_eq, value]
  split
  · rfl
  · rw [shape]

theorem readInt_yields (negative : Bool) {t : Text} (digits : t.IsDigits) :
    Yields IsTooLong (fun i => (Scalar.int i).IsWritable) (readInt 10 (minus negative ++ t)) := by
  obtain ⟨n, value, bound⟩ := value?_of_digits (n := 0) digits.2
  rw [readInt_of_digits negative digits value]
  split
  · rename_i long
    exact .error ⟨t.length, long, rfl⟩
  · rename_i short
    refine .ok ?_
    have fits : n < tenTo digitLimit := by
      calc n < (0 + 1) * 10 ^ t.length := bound
        _ = 10 ^ t.length := by rw [Nat.zero_add, Nat.one_mul]
        _ ≤ 10 ^ digitLimit := Nat.pow_le_pow_right (by decide) (Nat.le_of_not_lt short)
        _ = tenTo digitLimit := (tenTo_eq digitLimit).symm
    have magnitude : (if negative then -(n : Int) else n).natAbs = n := by
      cases negative <;> simp
    rw [Scalar.isWritable_int, magnitude]
    exact fits

def IsFraction (t : Text) : Prop :=
  ∃ digits : Text, digits.IsDigits ∧ t = CodePoint.ofChar '.' :: digits

def IsExponent (t : Text) : Prop :=
  ∃ (e : CodePoint) (before digits : Text), (e == 'e' || e == 'E') = true
    ∧ (before = [] ∨ before = ['+'] ∨ before = ['-']) ∧ digits.IsDigits
    ∧ t = e :: (before ++ digits)

theorem digitRun_append {t : Text} (rest : Text) (digits : t.IsDigits)
    (ends : ∀ c ∈ rest.head?, c.digitValue? = none) :
    ∃ d ds, digitRun (t ++ rest) = (d :: ds, rest) := by
  have each (c : CodePoint) (hc : c ∈ t) : c.digitValue?.isSome = true := by
    simp [digitValue?_of_ascii (digits.2 c hc)]
  obtain ⟨c, more, rfl⟩ := List.exists_cons_of_ne_nil digits.1
  have stops : rest.takeWhile (·.digitValue?.isSome) = []
      ∧ rest.dropWhile (·.digitValue?.isSome) = rest := by
    cases rest with
    | nil => exact ⟨rfl, rfl⟩
    | cons x _ => simp [ends x rfl]
  rw [digitRun, List.takeWhile_append_of_pos each, List.dropWhile_append_of_pos each, stops.1,
    stops.2, List.append_nil, List.filterMap_cons, digitValue?_of_ascii (digits.2 c
    List.mem_cons_self)]
  exact ⟨_, _, rfl⟩

theorem exponent?_isSome {t : Text} (ends : t = [] ∨ IsExponent t) :
    (exponent? t).isSome = true := by
  rcases ends with rfl | ⟨e, before, digits, mark, sign, row, rfl⟩
  · rfl
  · have signed : ∃ negative, Numeral.sign (before ++ digits) = (negative, digits) := by
      rcases sign with rfl | rfl | rfl
      · exact ⟨false, by simpa [minus] using sign_minus false row []⟩
      · exact ⟨false, rfl⟩
      · exact ⟨true, rfl⟩
    obtain ⟨negative, signed⟩ := signed
    obtain ⟨d, ds, run⟩ := digitRun_append [] row (by simp)
    rw [List.append_nil] at run
    simp [exponent?, mark, signed, run]

theorem IsExponent.starts {t : Text} (power : t = [] ∨ IsExponent t) :
    ∀ c ∈ t.head?, c.digitValue? = none := by
  rcases power with rfl | ⟨e, before, digits, mark, -, -, rfl⟩
  · simp
  · rcases Bool.or_eq_true_iff.mp mark with small | capital
    · simp [eq_of_beq small]
      decide
    · simp [eq_of_beq capital]
      decide

theorem unsignedDecimal?_isSome (negative : Bool) {digits fraction exponent : Text}
    (whole : digits.IsDigits) (part : fraction = [] ∨ IsFraction fraction)
    (power : exponent = [] ∨ IsExponent exponent) :
    (unsignedDecimal? negative (digits ++ (fraction ++ exponent))).isSome = true := by
  have ends : ∀ c ∈ (fraction ++ exponent).head?, c.digitValue? = none := by
    rcases part with rfl | ⟨row, -, rfl⟩
    · exact IsExponent.starts power
    · simp
      decide
  obtain ⟨d, ds, run⟩ := digitRun_append _ whole ends
  have last := exponent?_isSome power
  rw [unsignedDecimal?, run]
  rcases part with rfl | ⟨row, isRow, rfl⟩
  · cases exponent with
    | nil => simp [last]
    | cons e rest =>
      have notPoint : (e == CodePoint.ofChar '.') = false := by
        obtain ⟨_, before, row, mark, -, -, same⟩ := power.resolve_left (List.cons_ne_nil e rest)
        cases same
        refine beq_eq_false_iff_ne.mpr ?_
        rintro rfl
        exact absurd mark (by decide)
      simp [notPoint, last]
  · obtain ⟨d', ds', more⟩ := digitRun_append _ isRow (IsExponent.starts power)
    simp [more, last]

theorem visible_number {digits fraction exponent : Text} (whole : digits.IsDigits)
    (part : fraction = [] ∨ IsFraction fraction) (power : exponent = [] ∨ IsExponent exponent) :
    ∀ c ∈ digits ++ (fraction ++ exponent), 0x21 ≤ c.val ∧ c.val < 0x7F := by
  have row {t : Text} (isRow : t.IsDigits) : ∀ c ∈ t, 0x21 ≤ c.val ∧ c.val < 0x7F :=
    fun c hc => visible_of_digit (isRow.2 c hc)
  refine List.forall_mem_append.mpr ⟨row whole, List.forall_mem_append.mpr ⟨?_, ?_⟩⟩
  · rcases part with rfl | ⟨t, isRow, rfl⟩
    · simp
    · exact List.forall_mem_cons.mpr ⟨by decide, row isRow⟩
  · rcases power with rfl | ⟨e, before, t, mark, sign, isRow, rfl⟩
    · simp
    · have visible : 0x21 ≤ e.val ∧ e.val < 0x7F := by
        rcases Bool.or_eq_true_iff.mp mark with small | capital
        · rw [eq_of_beq small]
          decide
        · rw [eq_of_beq capital]
          decide
      have signs : ∀ c ∈ before, 0x21 ≤ c.val ∧ c.val < 0x7F := by
        rcases sign with rfl | rfl | rfl <;> decide
      exact List.forall_mem_cons.mpr ⟨visible, List.forall_mem_append.mpr ⟨signs, row isRow⟩⟩

theorem readDecimal_ok (negative : Bool) {digits fraction exponent : Text}
    (whole : digits.IsDigits) (part : fraction = [] ∨ IsFraction fraction)
    (power : exponent = [] ∨ IsExponent exponent) :
    ∃ x, readDecimal (minus negative ++ (digits ++ (fraction ++ exponent))) = .ok x := by
  have unpad := unpadded_eq (visible_minus negative (visible_number whole part power))
  have read := unsignedDecimal?_isSome negative whole part power
  obtain ⟨x, value⟩ := Option.isSome_iff_exists.mp read
  rw [readDecimal, unpad, sign_minus negative whole]
  simp only [value]
  split
  · exact ⟨_, rfl⟩
  · split
    · exact ⟨_, rfl⟩
    · exact ⟨x, rfl⟩

end Numeral

namespace Json

open Numeral

theorem take_digitsAt (t : Text) : ∀ c ∈ t.take (digitsAt t), c.isAsciiDigit = true := by
  rw [digitsAt, ← List.prefix_iff_eq_take.mp (List.takeWhile_prefix _)]
  exact fun c hc => List.mem_takeWhile_imp hc

theorem isDigits_take {t : Text} (found : 0 < digitsAt t) :
    Text.IsDigits (t.take (digitsAt t)) := by
  refine ⟨?_, take_digitsAt t⟩
  have same := List.prefix_iff_eq_take.mp (List.takeWhile_prefix (l := t) CodePoint.isAsciiDigit)
  rw [digitsAt, ← same]
  exact List.ne_nil_of_length_pos found

/-- A whole part behind a sign of `n` characters: a zero by itself, or a row of digits. -/
theorem unsigned_take (c : CodePoint) (more : Text) {n size : Nat} (found : size ≠ 0)
    (taken : size = if c == CodePoint.ofChar '0' then n + 1
      else if c.isAsciiDigit then n + 1 + digitsAt more else 0) :
    ∃ k, size = n + k ∧ Text.IsDigits ((c :: more).take k) := by
  split at taken
  · rename_i zero
    refine ⟨1, taken, by simp, ?_⟩
    simp [eq_of_beq zero]
    decide
  · split at taken
    · rename_i digit
      refine ⟨digitsAt more + 1, by omega, by simp, ?_⟩
      rw [List.take_succ_cons]
      exact List.forall_mem_cons.mpr ⟨digit, take_digitsAt more⟩
    · exact absurd taken found

theorem wholeAt_take {t : Text} (found : wholeAt t ≠ 0) :
    ∃ (negative : Bool) (digits : Text), digits.IsDigits
      ∧ t.take (wholeAt t) = minus negative ++ digits := by
  by_cases signed : t.head? = some (CodePoint.ofChar '-')
  · obtain ⟨rest, rfl⟩ := List.head?_eq_some_iff.mp signed
    cases rest with
    | nil => exact absurd rfl found
    | cons c more =>
      obtain ⟨k, size, digits⟩ := unsigned_take c more (n := 1) found
        (by simp [wholeAt])
      refine ⟨true, (c :: more).take k, digits, ?_⟩
      rw [size, Nat.add_comm, List.take_succ_cons]
      rfl
  · cases t with
    | nil => exact absurd rfl found
    | cons c more =>
      have noMinus : c ≠ CodePoint.ofChar '-' := fun same => signed (congrArg some same)
      obtain ⟨k, size, digits⟩ := unsigned_take c more (n := 0) found
        (by simp [wholeAt, noMinus])
      refine ⟨false, (c :: more).take k, digits, ?_⟩
      rw [size, Nat.zero_add]
      rfl

theorem fractionAt_take (t : Text) :
    fractionAt t = 0 ∨ IsFraction (t.take (fractionAt t)) := by
  cases t with
  | nil => exact .inl rfl
  | cons c rest =>
    simp only [fractionAt]
    split
    · rename_i point
      obtain ⟨dot, found⟩ := Bool.and_eq_true_iff.mp point
      refine .inr ⟨rest.take (digitsAt rest), isDigits_take (of_decide_eq_true found), ?_⟩
      rw [List.take_succ_cons, eq_of_beq dot]
    · exact .inl rfl

theorem isExponent_take {e : CodePoint} {rest : Text} {signed : Nat}
    (mark : (e == 'e' || e == 'E') = true)
    (before : rest.take signed = [] ∨ rest.take signed = ['+'] ∨ rest.take signed = ['-'])
    (found : 0 < digitsAt (rest.drop signed)) :
    IsExponent ((e :: rest).take (1 + signed + digitsAt (rest.drop signed))) := by
  refine ⟨e, rest.take signed, _, mark, before, isDigits_take found, ?_⟩
  rw [Nat.add_assoc, Nat.add_comm 1, List.take_succ_cons, List.take_add]

theorem exponentAt_take (t : Text) :
    exponentAt t = 0 ∨ IsExponent (t.take (exponentAt t)) := by
  match t with
  | [] => exact .inl rfl
  | [e] => exact .inl (by simp [exponentAt, digitsAt])
  | e :: s :: more =>
    by_cases mark : (e == 'e' || e == 'E') = true
    · -- The digits begin behind the sign, if there is one.
      obtain ⟨signed, size, before⟩ : ∃ signed,
          (if s == CodePoint.ofChar '+' || s == CodePoint.ofChar '-' then 1 else 0) = signed
            ∧ ((s :: more).take signed = [] ∨ (s :: more).take signed = ['+']
              ∨ (s :: more).take signed = ['-']) := by
        refine ⟨_, rfl, ?_⟩
        split
        · rename_i either
          rcases Bool.or_eq_true_iff.mp either with plus | minus
          · exact .inr (.inl (by simp [eq_of_beq plus]))
          · exact .inr (.inr (by simp [eq_of_beq minus]))
        · exact .inl rfl
      simp only [exponentAt, mark, if_true, size]
      split
      · exact .inl rfl
      · rename_i found
        exact .inr (isExponent_take mark before (Nat.pos_of_ne_zero (by simpa using found)))
    · exact .inl (by rw [exponentAt, if_neg mark])

/-- Of the numbers in a text only integers with too many digits are in the way. -/
def IsMalformedOrTooLong (f : Fault) : Prop := ∀ fault, f = .number fault → IsTooLong fault

theorem malformed_allowed (reason : Reason) (pos : Nat) :
    IsMalformedOrTooLong (.malformed reason pos) := by
  intro fault same
  cases same

theorem tooDeep_allowed : IsMalformedOrTooLong .tooDeep := by
  intro fault same
  cases same

theorem scalar_yields {t : Text} {whole fraction exponent : Nat} (found : wholeAt t ≠ 0)
    (sizeWhole : wholeAt t = whole) (sizeFraction : fractionAt (t.drop whole) = fraction)
    (sizeExponent : exponentAt (t.drop (whole + fraction)) = exponent) :
    Yields IsTooLong Scalar.IsWritable
      (if fraction == 0 && exponent == 0
        then Scalar.int <$> Numeral.readInt 10 (t.take (whole + fraction + exponent))
        else Scalar.float <$> Numeral.readDecimal (t.take (whole + fraction + exponent))) := by
  obtain ⟨negative, digits, row, written⟩ := wholeAt_take found
  rw [sizeWhole] at written
  split
  · rename_i none
    simp only [Bool.and_eq_true, beq_iff_eq] at none
    rw [none.1, none.2, Nat.add_zero, written]
    exact (readInt_yields negative row).map fun _ writable => writable
  · have part := fractionAt_take (t.drop whole)
    have power := exponentAt_take (t.drop (whole + fraction))
    rw [sizeFraction] at part
    rw [sizeExponent] at power
    obtain ⟨x, read⟩ := readDecimal_ok negative row
      (part.imp (fun none => by rw [none, List.take_zero]) id)
      (power.imp (fun none => by rw [none, List.take_zero]) id)
    rw [List.take_add, List.take_add, written, List.append_assoc, List.append_assoc, read]
    exact .ok trivial

theorem number_yields (a : At) : Yields IsMalformedOrTooLong
    (fun r => ∃ s : Scalar, r.1 = .scalar s ∧ s.IsWritable) (number a) := by
  unfold number
  simp only
  split
  · exact .error (malformed_allowed _ _)
  · rename_i found
    have scalar := scalar_yields (t := a.rest) (by simpa using found) rfl rfl rfl
    split
    · rename_i s given
      exact .ok ⟨s, rfl, scalar.of_ok given⟩
    · rename_i fault failed
      refine .error fun fault' same => ?_
      cases same
      exact scalar.of_error failed

end Json
end ExposureLint
