import Mathlib
import ExposureLint.Proofs.JsonNumber
import ExposureLint.Proofs.Tellable

/-!
Scalars written as JSON are read again: integers digit by digit, and texts character by character,
whatever characters they are made of. The reader is followed by what it leaves of the text; the
position that it counts along plays no part.
-/
namespace ExposureLint.Json

open Numeral

/-- A step that gives `x` and leaves `rest` of the text. -/
def Leaves {α : Type} (step : Except Fault (α × At)) (x : α) (rest : Text) : Prop :=
  ∃ pos, step = .ok (x, ⟨pos, rest⟩)

/-- What may follow a value: nothing, or what ends a value inside a container. -/
def Stops (rest : Text) : Prop :=
  ∀ c ∈ rest.head?, c = CodePoint.ofChar ',' ∨ c = CodePoint.ofChar ']'
    ∨ c = CodePoint.ofChar '\x7d' ∨ c = CodePoint.ofChar '\n'

theorem value?_append_toDigits (ds : List Char) (digits : ∀ d ∈ ds, d.isDigit = true) (n : Nat) :
    value? 10 n (ds.map CodePoint.ofChar) = some (Nat.ofDigitChars 10 ds n) := by
  induction ds generalizing n with
  | nil => rfl
  | cons d rest ih =>
    obtain ⟨here, there⟩ := List.forall_mem_cons.mp digits
    have range := Char.isDigit_iff_toNat.mp here
    have val : (CodePoint.ofChar d).val = d.toNat := rfl
    have ascii : (CodePoint.ofChar d).isAsciiDigit = true := by
      simpa [CodePoint.isAsciiDigit, val] using range
    have small : d.toNat - 48 < 10 := by
      have high : d.toNat ≤ 57 := range.2
      omega
    have read : digit? 10 (CodePoint.ofChar d) = some (d.toNat - 48) := by
      simp [digit?, digitValue?_of_ascii ascii, val, small]
    rw [List.map_cons, value?, read, Nat.ofDigitChars_cons, Nat.mul_comm 10 n]
    exact ih there _

theorem value?_ofNat (n : Nat) : value? 10 0 (Text.ofNat n) = some n := by
  rw [Text.ofNat_eq, value?_append_toDigits, Nat.ofDigitChars_ten_toDigits]
  intro d among
  exact Nat.isDigit_of_mem_toDigits (by decide) (by decide) among

theorem eq_zero_of_head? {n : Nat} (zero : (Nat.toDigits 10 n).head? = some '0') : n = 0 := by
  induction n using Nat.strongRecOn with
  | ind n ih =>
    rcases Nat.lt_or_ge n 10 with small | large
    · rw [Nat.toDigits_of_lt_base small] at zero
      exact Nat.digitChar_eq_zero.mp (Option.some.inj zero)
    · rw [Nat.toDigits_of_base_le (by decide) large,
        List.head?_append_of_ne_nil _ Nat.toDigits_ne_nil] at zero
      have none := ih (n / 10) (by omega) zero
      omega

theorem ofNat_alone {n : Nat} {more : Text} (shape : Text.ofNat n = CodePoint.ofChar '0' :: more) :
    more = [] := by
  have written := shape
  rw [Text.ofNat_eq, List.map_eq_cons_iff] at written
  obtain ⟨d, ds, digits, same, -⟩ := written
  have zero : d = '0' := Char.toNat_inj.mp (congrArg CodePoint.val same)
  have none : n = 0 := eq_zero_of_head? (by rw [digits, zero]; rfl)
  subst none
  exact (List.cons.inj shape).2.symm

theorem digitsAt_append {t rest : Text} (digits : ∀ c ∈ t, c.isAsciiDigit = true)
    (stops : Stops rest) : digitsAt (t ++ rest) = t.length := by
  have ends : rest.takeWhile CodePoint.isAsciiDigit = [] := by
    cases rest with
    | nil => rfl
    | cons c _ => rcases stops c rfl with rfl | rfl | rfl | rfl <;> rfl
  rw [digitsAt, List.takeWhile_append_of_pos digits, ends, List.append_nil]

theorem wholeAt_written (negative : Bool) (n : Nat) {rest : Text} (stops : Stops rest) :
    wholeAt (minus negative ++ (Text.ofNat n ++ rest))
      = (minus negative ++ Text.ofNat n).length := by
  have row := Text.isDigits_ofNat n
  obtain ⟨c, more, shape⟩ := List.exists_cons_of_ne_nil row.1
  have digit : c.isAsciiDigit = true := row.2 c (shape ▸ List.mem_cons_self)
  have others : ∀ d ∈ more, d.isAsciiDigit = true := fun d hd =>
    row.2 d (shape ▸ List.mem_cons_of_mem c hd)
  have noMinus : c ≠ CodePoint.ofChar '-' := by
    rintro rfl
    contradiction
  have behind := digitsAt_append others stops
  rw [shape]
  by_cases zero : c = CodePoint.ofChar '0'
  · rw [zero] at shape
    rw [ofNat_alone shape, zero]
    cases negative <;> rfl
  · cases negative <;> simp [wholeAt, minus, noMinus, zero, digit, behind] <;> omega

/-- What ends a value goes on with neither a fraction nor an exponent. -/
theorem no_fraction {rest : Text} (stops : Stops rest) :
    fractionAt rest = 0 ∧ exponentAt rest = 0 := by
  cases rest with
  | nil => exact ⟨rfl, rfl⟩
  | cons c _ => rcases stops c rfl with rfl | rfl | rfl | rfl <;> exact ⟨rfl, rfl⟩

theorem ofInt_eq (i : Int) :
    ∃ negative n, Text.ofInt i = minus negative ++ Text.ofNat n ∧ i.natAbs = n
      ∧ i = if negative then -(n : Int) else n := by
  cases i with
  | ofNat n => exact ⟨false, n, rfl, rfl, rfl⟩
  | negSucc n => exact ⟨true, n + 1, rfl, rfl, rfl⟩

theorem ofNat_length {n : Nat} (small : n < tenTo digitLimit) :
    (Text.ofNat n).length ≤ digitLimit := by
  rw [Text.ofNat_eq, List.length_map]
  exact (Nat.length_toDigits_le_iff (by decide) (by decide)).mpr
    (small.trans_eq (tenTo_eq digitLimit))

theorem intText_eq_ok_iff {i : Int} {t : Text} :
    intText i = .ok t ↔ i.natAbs < tenTo digitLimit ∧ t = Text.ofInt i := by
  rw [intText, mapError_eq_ok_iff, ofInt?_eq_ok_iff]

theorem number_written {i : Int} {t rest : Text} (pos : Nat) (written : intText i = .ok t)
    (stops : Stops rest) : Leaves (number ⟨pos, t ++ rest⟩) (.scalar (.int i)) rest := by
  obtain ⟨small, rfl⟩ := intText_eq_ok_iff.mp written
  obtain ⟨negative, n, form, same, value⟩ := ofInt_eq i
  have short : ¬ digitLimit < (Text.ofNat n).length :=
    Nat.not_lt.mpr (ofNat_length (same ▸ small))
  have read : readInt 10 (Text.ofInt i) = .ok i := by
    rw [form, readInt_of_digits negative (Text.isDigits_ofNat n) (value?_ofNat n), if_neg short,
      ← value]
  have whole : wholeAt (Text.ofInt i ++ rest) = (Text.ofInt i).length := by
    rw [form, List.append_assoc]
    exact wholeAt_written negative n stops
  have some : (Text.ofInt i).length ≠ 0 := by
    have row := List.length_pos_of_ne_nil (Text.isDigits_ofNat n).1
    rw [form, List.length_append]
    omega
  obtain ⟨point, power⟩ := no_fraction stops
  refine ⟨pos + (Text.ofInt i).length, ?_⟩
  simp [number, whole, some, point, power, read, At.skip]

theorem hex4?_append {digits more : Text} (four : digits.length = 4) :
    hex4? (digits ++ more) = hex4? digits := by
  match digits, four with
  | [_, _, _, _], _ => rfl

theorem hex4?_control : ∀ n < 0x20,
    (Text.ofNatHex 4 n).length = 4 ∧ hex4? (Text.ofNatHex 4 n) = some n := by
  decide

section
variable {start fuel pos : Nat} {more : Text}

theorem escape_short {c d : Char} (entry : (c, d) ∈ shortEscapes) :
    escape start pos (CodePoint.ofChar c :: more) = .ok (CodePoint.ofChar d, 1) := by
  fin_cases entry <;> rfl

theorem escape_control {c : CodePoint} (control : c.val < 0x20) (follows : more ≠ []) :
    escape start pos (CodePoint.ofChar 'u' :: (Text.ofNatHex 4 c.val ++ more)) = .ok (c, 5) := by
  obtain ⟨four, value⟩ := hex4?_control c.val control
  have long : 4 < (Text.ofNatHex 4 c.val ++ more).length := by
    have some := List.length_pos_of_ne_nil follows
    rw [List.length_append, four]
    omega
  have read : hex4? (Text.ofNatHex 4 c.val ++ more) = some c.val := by rw [hex4?_append four, value]
  have single : (CodePoint.ofNat? c.val).getD default = c := by
    rw [CodePoint.ofNat?, dif_pos c.isLt]
    rfl
  have low : c.isHighSurrogate = false := by
    have notHigh : ¬ 0xD800 ≤ c.val := by omega
    simp [CodePoint.isHighSurrogate, notHigh]
  simp only [escape, beq_self_eq_true, if_true, if_pos long, read, single, low]
  rfl

variable {t after : Text}

theorem stringFrom_escape {rest : Text} {d : CodePoint} {taken : Nat}
    (found : escape start pos rest = .ok (d, taken))
    (next : ∀ pos, Leaves (stringFrom start fuel ⟨pos, rest.drop taken⟩) t after) :
    Leaves (stringFrom start (fuel + 1) ⟨pos, CodePoint.ofChar '\\' :: rest⟩) (d :: t) after := by
  have other : (CodePoint.ofChar '\\' == CodePoint.ofChar '"') = false := rfl
  obtain ⟨behind, read⟩ := next (pos + 1 + taken)
  refine ⟨behind, ?_⟩
  rw [stringFrom]
  simp only [other, beq_self_eq_true, if_true, Bool.false_eq_true, if_false, found, At.skip, read,
    bind, Except.bind]
  rfl

theorem stringFrom_escaped (c : CodePoint) (follows : more ≠ [])
    (next : ∀ pos, Leaves (stringFrom start fuel ⟨pos, more⟩) t after) :
    Leaves (stringFrom start (fuel + 1) ⟨pos, escaped false c ++ more⟩) (c :: t) after := by
  rcases escaped_cases c with ⟨l, d, entry, rfl, form⟩ | ⟨control, form⟩
      | ⟨visible, noQuote, noBackslash, form⟩
  · rw [form]
    exact stringFrom_escape (escape_short entry) next
  · have four := (hex4?_control c.val control).1
    rw [form, List.cons_append, List.cons_append]
    refine stringFrom_escape (escape_control control follows) ?_
    rw [List.drop_succ_cons, List.drop_left' four]
    exact next
  · obtain ⟨behind, read⟩ := next (pos + 1)
    rw [form]
    refine ⟨behind, ?_⟩
    simp [stringFrom, noQuote, noBackslash, visible, read, bind, Except.bind, pure, Except.pure]

theorem stringFrom_quoted (t : Text) (enough : t.length < fuel) :
    Leaves (stringFrom start fuel ⟨pos, t.flatMap (escaped false) ++ CodePoint.ofChar '"' :: after⟩)
      t after := by
  induction t generalizing fuel pos with
  | nil =>
    cases fuel with
    | zero => contradiction
    | succ fuel => exact ⟨pos + 1, rfl⟩
  | cons c rest ih =>
    cases fuel with
    | zero => contradiction
    | succ fuel =>
      rw [List.flatMap_cons, List.append_assoc]
      refine stringFrom_escaped c (by simp) fun behind => ?_
      exact ih (Nat.lt_of_succ_lt_succ enough)

end

theorem escaped_ne_nil (c : CodePoint) : escaped false c ≠ [] := by
  rcases escaped_cases c with ⟨l, d, -, -, form⟩ | ⟨-, form⟩ | ⟨-, -, -, form⟩ <;> simp [form]

theorem string_quoted (pos : Nat) (t after : Text) :
    Leaves (string ⟨pos, t.flatMap (escaped false) ++ CodePoint.ofChar '"' :: after⟩) t after := by
  have long : t.length ≤ (t.flatMap (escaped false)).length := by
    have each : ∀ n ∈ t.map fun c => (escaped false c).length, 1 ≤ n := by
      intro n among
      obtain ⟨c, -, rfl⟩ := List.mem_map.mp among
      exact List.length_pos_of_ne_nil (escaped_ne_nil c)
    have sum := List.length_le_sum_of_one_le _ each
    rwa [List.length_map, ← List.length_flatMap] at sum
  refine stringFrom_quoted t ?_
  simp only [List.length_append, List.length_cons]
  omega

/-- The first character of a value, which is no blank and closes nothing. -/
def Opens (t : Text) : Prop :=
  ∃ c more, t = c :: more ∧ At.isSpace c = false ∧ c ≠ CodePoint.ofChar ']'
    ∧ c ≠ CodePoint.ofChar '\ufeff'

theorem Opens.head {t : Text} (opens : Opens t) (rest : Text) :
    ∀ c ∈ (t ++ rest).head?, At.isSpace c = false := by
  obtain ⟨c, more, rfl, visible, -, -⟩ := opens
  intro d head
  cases head
  exact visible

theorem quoted_append (t rest : Text) : quoted false t ++ rest
    = CodePoint.ofChar '"' :: (t.flatMap (escaped false) ++ CodePoint.ofChar '"' :: rest) := by
  have close : Text.ofString "\"" = [CodePoint.ofChar '"'] := rfl
  rw [quoted, close, List.append_assoc, List.append_assoc]
  rfl

theorem value_text (fuel room pos : Nat) (t rest : Text) :
    Leaves (value (fuel + 1) room ⟨pos, quoted false t ++ rest⟩) (.text t) rest := by
  obtain ⟨behind, read⟩ := string_quoted (pos + 1) t rest
  refine ⟨behind, ?_⟩
  rw [quoted_append]
  unfold value
  simp only [At.next, At.skip, List.head?_cons, beq_self_eq_true, if_true, List.drop_succ_cons,
    List.drop_zero, read]
  rfl

theorem opens_quoted (t : Text) : Opens (quoted false t) := by
  have form := quoted_append t []
  rw [List.append_nil] at form
  exact ⟨_, _, form, rfl, by decide, by decide⟩

theorem ofInt_cases (i : Int) : (∃ c more, Text.ofInt i = c :: more ∧ c.isAsciiDigit = true)
    ∨ ∃ c more, Text.ofInt i = CodePoint.ofChar '-' :: c :: more ∧ c.isAsciiDigit = true := by
  obtain ⟨negative, n, form, -, -⟩ := ofInt_eq i
  have row := Text.isDigits_ofNat n
  obtain ⟨c, more, shape⟩ := List.exists_cons_of_ne_nil row.1
  have digit : c.isAsciiDigit = true := row.2 c (shape ▸ List.mem_cons_self)
  rw [form, shape]
  cases negative with
  | false => exact .inl ⟨c, more, rfl, digit⟩
  | true => exact .inr ⟨c, more, rfl, digit⟩

theorem opens_ofInt (i : Int) : Opens (Text.ofInt i) := by
  rcases ofInt_cases i with ⟨c, more, shape, digit⟩ | ⟨c, more, shape, -⟩
  · have other {d : Char} (apart : (CodePoint.ofChar d).isAsciiDigit = false) :
        (c == CodePoint.ofChar d) = false := beq_of_digit digit apart
    refine ⟨c, more, shape, ?_, beq_eq_false_iff_ne.mp (other rfl),
      beq_eq_false_iff_ne.mp (other rfl)⟩
    rw [At.isSpace, other rfl, other rfl, other rfl, other rfl]
    rfl
  · exact ⟨_, _, shape, rfl, by decide, by decide⟩

theorem not_word {c : CodePoint} (more : Text) (digit : c.isAsciiDigit = true) :
    words.find? (fun w => Text.startsWith (c :: more) (Text.ofString w.1)) = none
      ∧ words.find? (fun w => Text.startsWith (CodePoint.ofChar '-' :: c :: more)
          (Text.ofString w.1)) = none := by
  have other {d : Char} (apart : (CodePoint.ofChar d).isAsciiDigit = false) :
      (CodePoint.ofChar d == c) = false := by
    rw [Bool.beq_comm]
    exact beq_of_digit digit apart
  have start {d : Char} (word : Text) (apart : (CodePoint.ofChar d).isAsciiDigit = false) :
      Text.startsWith (c :: more) (CodePoint.ofChar d :: word) = false := by
    rw [Text.startsWith, List.isPrefixOf_cons_cons, other apart, Bool.false_and]
  constructor
  · refine List.find?_eq_none.mpr fun w among => ?_
    have refused : Text.startsWith (c :: more) (Text.ofString w.1) = false := by
      fin_cases among <;> exact start _ rfl
    simp [refused]
  · refine List.find?_eq_none.mpr fun w among => ?_
    have refused : Text.startsWith (CodePoint.ofChar '-' :: c :: more) (Text.ofString w.1)
        = false := by
      fin_cases among <;> first | rfl | exact start _ rfl
    simp [refused]

theorem next_cons (d : Char) (c : CodePoint) (pos : Nat) (rest : Text) :
    At.next d ⟨pos, c :: rest⟩ = (c == CodePoint.ofChar d) := by
  simp [At.next]

theorem value_number (fuel room pos : Nat) {i : Int} {t rest : Text} (written : intText i = .ok t)
    (stops : Stops rest) :
    Leaves (value (fuel + 1) room ⟨pos, t ++ rest⟩) (.scalar (.int i)) rest := by
  have read := number_written pos written stops
  obtain ⟨-, rfl⟩ := intText_eq_ok_iff.mp written
  have isNumber : value (fuel + 1) room ⟨pos, Text.ofInt i ++ rest⟩
      = number ⟨pos, Text.ofInt i ++ rest⟩ := by
    rcases ofInt_cases i with ⟨c, more, shape, digit⟩ | ⟨c, more, shape, digit⟩
    · have other {d : Char} (apart : (CodePoint.ofChar d).isAsciiDigit = false) :
          (c == CodePoint.ofChar d) = false := beq_of_digit digit apart
      have word := (not_word (more ++ rest) digit).1
      rw [shape, List.cons_append]
      unfold value
      rw [next_cons, next_cons, next_cons, other rfl, other rfl, other rfl, word]
      rfl
    · have word := (not_word (more ++ rest) digit).2
      rw [shape, List.cons_append, List.cons_append]
      unfold value
      rw [word]
      rfl
  rw [isNumber]
  exact read

/-- A scalar of a record is read as it was written. -/
theorem value_scalar (fuel room pos : Nat) {style : Style} (plain : style.ascii = false) {s : Scalar}
    (simple : s.isSimple = true) {t rest : Text} (written : scalarText style s = .ok t)
    (stops : Stops rest) : Leaves (value (fuel + 1) room ⟨pos, t ++ rest⟩) (.scalar s) rest := by
  cases s with
  | null =>
    cases written
    exact ⟨pos + 4, rfl⟩
  | bool b =>
    cases written
    cases b with
    | true => exact ⟨pos + 4, rfl⟩
    | false => exact ⟨pos + 5, rfl⟩
  | int i => exact value_number fuel room pos written stops
  | text u =>
    cases written
    rw [plain]
    exact value_text fuel room pos u rest
  | _ => cases simple

theorem opens_scalar {style : Style} (plain : style.ascii = false) {s : Scalar}
    (simple : s.isSimple = true) {t : Text} (written : scalarText style s = .ok t) : Opens t := by
  cases s with
  | null =>
    cases written
    exact ⟨_, _, rfl, rfl, by decide, by decide⟩
  | bool b =>
    cases written
    cases b <;> exact ⟨_, _, rfl, rfl, by decide, by decide⟩
  | int i =>
    obtain ⟨-, rfl⟩ := intText_eq_ok_iff.mp written
    exact opens_ofInt i
  | text u =>
    cases written
    rw [plain]
    exact opens_quoted u
  | _ => cases simple

end ExposureLint.Json
