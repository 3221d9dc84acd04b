import Mathlib
import ExposureLint.Proofs.FindingSource

/-!
Every operation of a document belongs to one class of methods. A key of a path is taken for a method
just when its text is the key of one in any case of the Latin letters, whatever else has a small
letter. Such a text has the verb of the method as its upper case, and every verb writes or reads.
-/
namespace ExposureLint

namespace CodePoint

/-- The letter itself, or the capital of a small letter. -/
def IsCaseOf (c d : CodePoint) : Prop := c = d ∨ c.val + 0x20 = d.val

instance (c d : CodePoint) : Decidable (c.IsCaseOf d) :=
  inferInstanceAs (Decidable (c = d ∨ c.val + 0x20 = d.val))

theorem isCaseOf_iff {c d : CodePoint} (small : d.isAsciiLower = true) :
    c.IsCaseOf d ↔ (if c.isAsciiUpper then ofChar (Char.ofNat (c.val + 0x20)) else c) = d := by
  have range : 0x61 ≤ d.val ∧ d.val ≤ 0x7A := by simpa [isAsciiLower] using small
  cases capital : c.isAsciiUpper with
  | true =>
    have range' : 0x41 ≤ c.val ∧ c.val ≤ 0x5A := by simpa [isAsciiUpper] using capital
    have value : (ofChar (Char.ofNat (c.val + 0x20))).val = c.val + 0x20 :=
      val_ofChar_ofNat (by omega)
    constructor
    · rintro (rfl | above)
      · omega
      · exact eq_of_val_eq (value.trans above)
    · rintro rfl
      exact .inr value.symm
  | false =>
    constructor
    · rintro (same | above)
      · exact same
      · have range' : c.isAsciiUpper = true := by
          simp only [isAsciiUpper, Bool.and_eq_true, decide_eq_true_eq]
          omega
        cases capital.symm.trans range'
    · exact .inl

end CodePoint

namespace Text

/-- A text that is another one up to the case of its letters. -/
def IsCaseOf (t w : Text) : Prop := List.Forall₂ CodePoint.IsCaseOf t w

theorem lowerAscii_eq_iff {t w : Text} (small : ∀ d ∈ w, d.isAsciiLower = true) :
    t.lowerAscii = w ↔ t.IsCaseOf w := by
  induction t generalizing w with
  | nil =>
    rw [IsCaseOf, List.forall₂_nil_left_iff]
    exact eq_comm
  | cons c t ih =>
    cases w with
    | nil => simp [lowerAscii, IsCaseOf]
    | cons d w =>
      have here := CodePoint.isCaseOf_iff (c := c) (small d List.mem_cons_self)
      have rest := ih fun e there => small e (List.mem_cons_of_mem d there)
      rw [lowerAscii_cons, IsCaseOf, List.forall₂_cons, ← IsCaseOf, here, ← rest]
      exact List.cons_eq_cons

theorem IsCaseOf.letters {t w : Text} (same : t.IsCaseOf w)
    (small : ∀ d ∈ w, d.isAsciiLower = true) :
    ∀ c ∈ t, c.isAsciiUpper = true ∨ c.isAsciiLower = true := by
  induction same with
  | nil => exact List.forall_mem_nil _
  | @cons c d t w here _ ih =>
    have letter := small d List.mem_cons_self
    refine List.forall_mem_cons.mpr ⟨?_, ih fun e there => small e (List.mem_cons_of_mem d there)⟩
    rcases here with rfl | above
    · exact .inr letter
    · left
      simp only [CodePoint.isAsciiLower, Bool.and_eq_true, decide_eq_true_eq] at letter
      simp only [CodePoint.isAsciiUpper, Bool.and_eq_true, decide_eq_true_eq]
      omega

end Text

namespace Method
variable {t : Text} {m : Method}

theorem key_small (m : Method) : ∀ c ∈ m.key, c.isAsciiLower = true := by
  cases m <;> decide

theorem isCaseOf_key_iff : t.IsCaseOf m.key ↔ ofKey? t.lower = some m := by
  rw [ofKey?_lower_eq_some_iff]
  exact (Text.lowerAscii_eq_iff m.key_small).symm

/-- The two cases agree: what small letters make a method, capitals make its verb. -/
theorem upper_eq_verb (same : t.IsCaseOf m.key) : t.upper = m.verb := by
  have named : t.lowerAscii = m.key := (Text.lowerAscii_eq_iff m.key_small).mpr same
  exact (upper_eq_upperAscii named).trans (upperAscii_eq_verb named)

theorem ofVerb?_eq_some_iff {v : Text} : ofVerb? v = some m ↔ v = m.verb := by
  constructor
  · intro found
    have same := List.find?_some (show all.find? (fun m => m.verb == v) = some m from found)
    exact (eq_of_beq same).symm
  · rintro rfl
    exact ofVerb?_verb m

/-- What holds of the method with a verb holds of a method that has the verb. -/
theorem getD_ofVerb?_iff {v : Text} {holds : Method → Bool} :
    ((ofVerb? v).map holds).getD false = true ↔ ∃ m, holds m = true ∧ v = m.verb := by
  constructor
  · intro found
    cases known : ofVerb? v with
    | none =>
      rw [known] at found
      cases found
    | some m =>
      rw [known] at found
      exact ⟨m, found, ofVerb?_eq_some_iff.mp known⟩
  · rintro ⟨m, here, rfl⟩
    rw [ofVerb?_verb]
    exact here

end Method

namespace Operation
variable {op : Operation}

theorem isWrite_iff_mem :
    op.isWrite = true ↔ op.method ∈ (["POST", "PUT", "PATCH", "DELETE"] : List Text) := by
  simp only [isWrite, Method.getD_ofVerb?_iff, List.mem_cons, List.not_mem_nil, or_false]
  constructor
  · rintro ⟨m, writes, same⟩
    cases m with
    | get | options | head => cases writes
    | post => exact .inl same
    | put => exact .inr (.inl same)
    | patch => exact .inr (.inr (.inl same))
    | delete => exact .inr (.inr (.inr same))
  · rintro (same | same | same | same)
    · exact ⟨.post, rfl, same⟩
    · exact ⟨.put, rfl, same⟩
    · exact ⟨.patch, rfl, same⟩
    · exact ⟨.delete, rfl, same⟩

theorem isRead_iff_mem :
    op.isRead = true ↔ op.method ∈ (["GET", "HEAD", "OPTIONS"] : List Text) := by
  simp only [isRead, Method.getD_ofVerb?_iff, List.mem_cons, List.not_mem_nil, or_false]
  constructor
  · rintro ⟨m, reads, same⟩
    cases m with
    | post | put | patch | delete => cases reads
    | get => exact .inl same
    | head => exact .inr (.inl same)
    | options => exact .inr (.inr same)
  · rintro (same | same | same)
    · exact ⟨.get, rfl, same⟩
    · exact ⟨.head, rfl, same⟩
    · exact ⟨.options, rfl, same⟩

theorem isWrite_eq_not_isRead {m : Method} (same : op.method = m.verb) :
    op.isWrite = !op.isRead := by
  rw [isWrite, isRead, same, Method.ofVerb?_verb]
  exact (Bool.not_not m.isWrite).symm

end Operation

namespace Finding
variable {op : Operation}

def ofRule (op : Operation) (rule : Rule) : Finding :=
  ⟨op.path, op.method, rule.severity, rule.message op, rule.id⟩

/-- Without authentication, a part of the path is enough for a finding in either class. -/
theorem ofOperation_of_exposed (classed : op.isWrite = !op.isRead)
    (params : op.hasPathParams = true) (exposed : op.isAuthenticated = false) :
    ofOperation op
      = [ofRule op (if op.isWrite then .unauthenticatedWrite else .unauthenticatedRead)] := by
  have applying : Rule.applying op
      = if op.isWrite then .unauthenticatedWrite else .unauthenticatedRead := by
    rw [Rule.applying, exposed]
    rfl
  have broken : (Rule.applying op).isBroken op = true := by
    rw [applying]
    cases writes : op.isWrite with
    | true => simp [Rule.isBroken, writes, Operation.takesInput, params, exposed]
    | false =>
      have reads : op.isRead = true := by simpa [writes] using classed
      simp [Rule.isBroken, reads, params, exposed]
  rw [ofOperation_eq, Rule.check, if_pos broken, applying]
  rfl

end Finding

namespace Spec
variable {default : Value} {path key : Scalar} {value : Value} {fields : List (Scalar × Value)}
  {t : Text} {document : Value} {ops : List Operation} {op : Operation}

theorem methodOf_eq_some_iff : methodOf key = .ok (some t) ↔
    key.display? = .ok t ∧ ∃ m : Method, t.IsCaseOf m.key := by
  simp only [methodOf, bind_eq_ok_iff, pure, Except.pure, Except.ok.injEq]
  constructor
  · rintro ⟨shown, display, accepted⟩
    split at accepted
    · rename_i named
      cases accepted
      obtain ⟨m, found⟩ := Option.isSome_iff_exists.mp named
      exact ⟨display, m, Method.isCaseOf_key_iff.mpr found⟩
    · cases accepted
  · rintro ⟨display, m, same⟩
    refine ⟨t, display, if_pos ?_⟩
    rw [Method.isCaseOf_key_iff.mp same]
    rfl

/-- A mapping under a key is passed over just when the key names no method. -/
theorem entryOperation_eq_none_iff [Host] (mapping : value.entries? = some fields)
    (display : key.display? = .ok t) :
    entryOperation default path (key, value) = .ok none ↔ ¬ ∃ m : Method, t.IsCaseOf m.key := by
  have method : methodOf key = .ok (if (Method.ofKey? t.lower).isSome then some t else none) := by
    rw [methodOf, display]
    rfl
  simp only [entryOperation, method, mapping, Method.isCaseOf_key_iff, ← Option.isSome_iff_exists]
  cases (Method.ofKey? t.lower).isSome with
  | false => simp [ofName, Except.mapError, bind, Except.bind, pure, Except.pure]
  | true => simp [ofName, Except.mapError, bind_eq_ok_iff, map_eq_ok_iff]

theorem method_eq_verb [Host] (listed : normalize document = .ok ops) (there : op ∈ ops) :
    ∃ m : Method, op.method = m.verb := by
  obtain ⟨d, describes⟩ := exists_describes listed there
  exact ⟨d.method, describes.method_eq_verb⟩

/-- Which keys name a method, and that no operation of a document is without a class. A key names
one just when its text is a method in any case of its letters, which are Latin ones, and then its
upper case is the verb of the method; a mapping under any other key is passed over. What is listed
has a verb that either writes or reads, so with a part in its path and no authentication it has one
finding, under the rule for its class. -/
theorem methods_are_classed [Host] :
    (∀ key t, methodOf key = .ok (some t) ↔
        key.display? = .ok t ∧ ∃ m : Method, t.IsCaseOf m.key)
      ∧ (∀ t m, Text.IsCaseOf t (Method.key m) →
          t.upper = m.verb ∧ ∀ c ∈ t, c.isAsciiUpper = true ∨ c.isAsciiLower = true)
      ∧ (∀ default path key value fields t, value.entries? = some fields →
          key.display? = .ok t →
          (entryOperation default path (key, value) = .ok none ↔
            ¬ ∃ m : Method, t.IsCaseOf m.key))
      ∧ ∀ document ops, normalize document = .ok ops → ∀ op ∈ ops,
        op.isWrite = !op.isRead
          ∧ (op.isWrite = true ↔ op.method ∈ (["POST", "PUT", "PATCH", "DELETE"] : List Text))
          ∧ (op.isRead = true ↔ op.method ∈ (["GET", "HEAD", "OPTIONS"] : List Text))
          ∧ (op.hasPathParams = true → op.isAuthenticated = false →
            Finding.ofOperation op = [Finding.ofRule op
              (if op.isWrite then .unauthenticatedWrite else .unauthenticatedRead)]) := by
  refine ⟨fun _ _ => methodOf_eq_some_iff, ?letters, ?passed, ?classes⟩
  case letters =>
    intro t m same
    exact ⟨Method.upper_eq_verb same, same.letters m.key_small⟩
  case passed =>
    intro default path key value fields t mapping display
    exact entryOperation_eq_none_iff mapping display
  case classes =>
    intro document ops listed op there
    obtain ⟨m, verb⟩ := method_eq_verb listed there
    have classed := Operation.isWrite_eq_not_isRead verb
    exact ⟨classed, Operation.isWrite_iff_mem, Operation.isRead_iff_mem,
      Finding.ofOperation_of_exposed classed⟩

def mixedCaseDocument : Value := .map [
  (.text "openapi", .text "3.0.0"), (.text "info", .map []),
  (.text "paths", .map [(.text "/a/\x7bid\x7d", .map [
    (.text "PoSt", .map []), (.text "trace", .map []), (.text "hEAD", .map [])])])]

def mixedCaseOperations : List Operation := [
  ⟨"HEAD", "/a/\x7bid\x7d", false, true, [], false, none⟩,
  ⟨"POST", "/a/\x7bid\x7d", false, true, [], false, none⟩]

theorem mixedCase_methods_are_classed :
    normalize mixedCaseDocument = .ok mixedCaseOperations
      ∧ Text.IsCaseOf "PoSt" (Method.key .post) ∧ Text.upper "PoSt" = Method.verb .post
      ∧ (∀ c ∈ Text.ofString "PoSt", c.isAsciiUpper = true ∨ c.isAsciiLower = true)
      ∧ (¬ ∃ m : Method, Text.IsCaseOf "trace" m.key)
      ∧ ∀ op ∈ mixedCaseOperations, op.isWrite = !op.isRead
        ∧ op.hasPathParams = true ∧ op.isAuthenticated = false
        ∧ (Finding.ofOperation op).length = 1 := by
  have ⟨named, letters, passed, classes⟩ := methods_are_classed
  have listed : normalize mixedCaseDocument = .ok mixedCaseOperations := rfl
  have post : Text.IsCaseOf "PoSt" (Method.key .post) := Method.isCaseOf_key_iff.mpr rfl
  have trace := (passed (.list []) (.text "/a") (.text "trace") (.map []) [] "trace" rfl rfl).mp rfl
  have ⟨verb, latin⟩ := letters _ .post post
  refine ⟨listed, post, verb, latin, trace, ?_⟩
  intro op there
  obtain ⟨classed, -, -, found⟩ := classes mixedCaseDocument mixedCaseOperations listed op there
  have exposed : ∀ op ∈ mixedCaseOperations,
      op.hasPathParams = true ∧ op.isAuthenticated = false := by decide
  obtain ⟨params, bare⟩ := exposed op there
  exact ⟨classed, params, bare, congrArg List.length (found params bare)⟩

end Spec
end ExposureLint
