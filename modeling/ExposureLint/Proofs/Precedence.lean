import Mathlib
import ExposureLint.Proofs.Entries
import ExposureLint.Proofs.SettingsRecord

/-!
Which layer each setting comes from. The command line goes before the environment, the environment
before the section of the file in the project, and the section before the defaults. What a section
has where a stronger layer speaks has no influence at all.
-/
namespace ExposureLint

theorem Text.lower_eq_nil_iff {t : Text} : Text.lower t = [] ↔ t = [] := by
  cases t with
  | nil => exact iff_of_true rfl rfl
  | cons c rest =>
    refine iff_of_false ?_ (List.cons_ne_nil c rest)
    simp only [lower, lowerFrom, List.append_eq_nil_iff, not_and]
    intro none
    split at none
    · cases none
    · split at none
      · split at none <;> cases none
      · cases none

namespace Environment
variable {env : Environment} {name : Text} {o : Option Bool}

/-- A variable without the white space around it, which may be all of it. -/
def stripped (env : Environment) (name : Text) : Text := Text.strip ((env.get? name).getD [])

/-- The truth value that a variable means; none when it is not set or blank. -/
inductive Means (env : Environment) (name : Text) : Option Bool → Prop
  | blank (empty : env.stripped name = []) : Means env name none
  | yes (word : Text.lower (env.stripped name) ∈ trueWords) : Means env name (some true)
  | no (word : Text.lower (env.stripped name) ∈ falseWords) : Means env name (some false)

/-- A variable that is set and not blank, and means no truth value. -/
structure Malformed (env : Environment) (name : Text) : Prop where
  nonblank : env.stripped name ≠ []
  notTrue : Text.lower (env.stripped name) ∉ trueWords
  notFalse : Text.lower (env.stripped name) ∉ falseWords

theorem bool?_eq (env : Environment) (name : Text) :
    env.bool? name = if env.stripped name = [] then .ok none
      else if Text.lower (env.stripped name) ∈ trueWords then .ok (some true)
      else if Text.lower (env.stripped name) ∈ falseWords then .ok (some false)
      else .error (.notBool name (Text.lower (env.stripped name))) := by
  have folded : Text.strip ((env.get? name).getD []) = env.stripped name := rfl
  simp only [bool?, folded, List.isEmpty_iff, Text.lower_eq_nil_iff, List.contains_iff_mem]

theorem bool?_eq_ok_iff : env.bool? name = .ok o ↔ env.Means name o := by
  have nonblank {words : List Text} (word : Text.lower (env.stripped name) ∈ words)
      (noEmpty : [] ∉ words) : env.stripped name ≠ [] := by
    intro blank
    rw [Text.lower_eq_nil_iff.mpr blank] at word
    exact noEmpty word
  have apart : ∀ t ∈ falseWords, t ∉ trueWords := by decide
  rw [bool?_eq]
  constructor
  · intro read
    split at read
    · rename_i blank
      cases read
      exact .blank blank
    split at read
    · rename_i yes
      cases read
      exact .yes yes
    split at read
    · rename_i no
      cases read
      exact .no no
    · cases read
  · intro meant
    cases meant with
    | blank empty => rw [if_pos empty]
    | yes word => rw [if_neg (nonblank word (by decide)), if_pos word]
    | no word => rw [if_neg (nonblank word (by decide)), if_neg (apart _ word), if_pos word]

theorem Malformed.bool? (bad : env.Malformed name) :
    env.bool? name = .error (.notBool name (Text.lower (env.stripped name))) := by
  rw [bool?_eq, if_neg bad.nonblank, if_neg bad.notTrue, if_neg bad.notFalse]

theorem Malformed.not_means (bad : env.Malformed name) : ¬ env.Means name o := by
  intro means
  have read := bool?_eq_ok_iff.mpr means
  rw [bad.bool?] at read
  cases read

theorem Means.unset {line : Option Bool} (means : env.Means name o)
    (nothing : (line.or o).map Value.bool = none) :
    ¬ (line.isSome ∨ env.stripped name ≠ []) := by
  obtain ⟨rfl, rfl⟩ := Option.or_eq_none_iff.mp (Option.map_eq_none_iff.mp nothing)
  cases means with
  | blank empty => simp [empty]

theorem filled?_eq_none_iff : env.filled? name = none ↔ ∀ t, env.get? name = some t → t = [] := by
  rw [filled?, Option.filter_eq_none_iff]
  simp

theorem filled?_eq_some_iff {t : Text} :
    env.filled? name = some t ↔ env.get? name = some t ∧ t ≠ [] := by
  rw [filled?, Option.filter_eq_some_iff]
  simp

end Environment

namespace Settings
open Record

inductive Rooted (env : Environment) (c : Choices) : Text → Prop
  | given {t : Text} (line : c.project = some t) (nonempty : t ≠ []) : Rooted env c t
  | set {t : Text} (noLine : ∀ t, c.project = some t → t = [])
      (var : env.get? Environment.project = some t) (nonempty : t ≠ []) : Rooted env c t
  | here (noLine : ∀ t, c.project = some t → t = [])
      (noVar : ∀ t, env.get? Environment.project = some t → t = []) : Rooted env c "."

/-- Where a setting is taken from: the command line, a variable, the value that the section has for
it, as it is read, or the default. -/
inductive Takes {α : Type} (line var : Option α) (found : Option Value)
    (read : Value → Reading α) (otherwise : α) : α → Prop
  | given {x : α} (isLine : line = some x) : Takes line var found read otherwise x
  | set {x : α} (noLine : line = none) (isVar : var = some x) :
      Takes line var found read otherwise x
  | written {v : Value} {x : α} (noLine : line = none) (noVar : var = none)
      (there : found = some v) (good : read v = .ok x) : Takes line var found read otherwise x
  | missing (noLine : line = none) (noVar : var = none) (nothing : found = none) :
      Takes line var found read otherwise otherwise

def sectionFields : List String := ["strict", "allow_missing_spec", "output_format"]

/-- The settings that the layers settle, above a section with some fields. -/
structure Settles (env : Environment) (c : Choices) (fields : List (Scalar × Value))
    (s : Settings) : Prop where
  root : s.root = rootOf env c
  strict : ∃ o, env.Means Environment.strict o
    ∧ Takes c.strict o (Value.find? (.text "strict") fields) readBool false s.strict
  allowMissing : ∃ o, env.Means Environment.allowMissing o
    ∧ Takes c.allowMissing o (Value.find? (.text "allow_missing_spec") fields) readBool false
      s.allowMissing
  format : ∃ t, Takes c.format (env.filled? Environment.format)
      (Value.find? (.text "output_format") fields) readText "auto" t
    ∧ s.format.name = Text.lower t
  known : ∀ e ∈ fields, IsNamed sectionFields e.1

variable {disk disk' : Disk} {env : Environment} {c : Choices} {root : Text}
  {fields fields' : List (Scalar × Value)} {s : Settings}

theorem rootOf_rooted (env : Environment) (c : Choices) : Rooted env c (rootOf env c) := by
  unfold rootOf
  cases given : c.project.filter fun t => !t.isEmpty with
  | some t =>
    obtain ⟨line, nonempty⟩ := Option.filter_eq_some_iff.mp given
    exact .given line (by simpa using nonempty)
  | none =>
    have noLine : ∀ t, c.project = some t → t = [] := by
      simpa using Option.filter_eq_none_iff.mp given
    cases set : env.filled? Environment.project with
    | some t =>
      obtain ⟨var, nonempty⟩ := Environment.filled?_eq_some_iff.mp set
      exact .set noLine var nonempty
    | none => exact .here noLine (Environment.filled?_eq_none_iff.mp set)

/-- A setting is taken from the strongest layer: it is read from the value that is put over the
section, if there is one. -/
theorem takes_iff {α : Type} {line var : Option α} {found : Option Value}
    {read : Value → Reading α} {otherwise x : α} {asValue : α → Value}
    (back : ∀ x, read (asValue x) = .ok x) :
    Takes line var found read otherwise x
      ↔ Reads read otherwise (((line.or var).map asValue).or found) x := by
  constructor
  · intro takes
    cases takes with
    | given isLine => subst isLine; exact .written (back x)
    | set noLine isVar => subst noLine isVar; exact .written (back x)
    | written noLine noVar there good => subst noLine noVar there; exact .written good
    | missing noLine noVar nothing => subst noLine noVar nothing; exact .missing
  · intro reads
    cases line with
    | some y =>
      obtain rfl := Except.ok.inj ((back y).symm.trans (reads_some_iff.mp reads))
      exact .given rfl
    | none =>
      cases var with
      | some y =>
        obtain rfl := Except.ok.inj ((back y).symm.trans (reads_some_iff.mp reads))
        exact .set rfl rfl
      | none =>
        cases reads with
        | written good => exact .written rfl rfl rfl good
        | missing => exact .missing rfl rfl rfl

/-- A section with all that the other layers put over it, where `strict` and `allow` are what the
variables mean. -/
def layered (env : Environment) (c : Choices) (strict allow : Option Bool)
    (fields : List (Scalar × Value)) : List (Scalar × Value) :=
  fields
    |> override "strict" ((c.strict.or strict).map .bool)
    |> override "allow_missing_spec" ((c.allowMissing.or allow).map .bool)
    |> override "output_format" ((c.format.or (env.filled? Environment.format)).map .text)
    |> override "project_root" (some (.text (rootOf env c)))

theorem resolve_of_loaded [Host] (loaded : loadSection disk (rootOf env c) = .ok fields) :
    resolve disk env c = (do
      let asFailure (fault : SettingsFault) : Failure := .lint (.settings fault)
      let strict ← (env.bool? Environment.strict).mapError asFailure
      let allow ← (env.bool? Environment.allowMissing).mapError asFailure
      (ofRecord (.map (layered env c strict allow fields))).mapError fun why =>
        asFailure (.refused why)) := by
  simp only [resolve, loaded]
  rfl

theorem known_iff (noRoot : Value.find? (.text "project_root") fields = none) :
    (∀ e ∈ fields, IsNamed Settings.fields e.1) ↔ ∀ e ∈ fields, IsNamed sectionFields e.1 := by
  have apart : ∀ e ∈ fields, e.1 ≠ .text (Text.ofString "project_root") := by
    intro e there isRoot
    have found := List.find?_eq_none.mp (Option.map_eq_none_iff.mp noRoot) e there
    exact found (Value.sameKey_text_iff.mpr isRoot)
  refine forall₂_congr fun e there => ⟨?_, ?_⟩
  · rintro ⟨name, listed, isKey⟩
    rcases List.mem_cons.mp listed with rfl | listed
    · exact absurd isKey (apart e there)
    · exact ⟨name, listed, isKey⟩
  · rintro ⟨name, listed, isKey⟩
    exact ⟨name, List.mem_cons_of_mem _ listed, isKey⟩

theorem layered_known {strict allow : Option Bool} :
    (∀ e ∈ layered env c strict allow fields, IsNamed Settings.fields e.1)
      ↔ ∀ e ∈ fields, IsNamed Settings.fields e.1 := by
  have own {name : String} (listed : name ∈ Settings.fields) :
      IsNamed Settings.fields (.text (Text.ofString name)) := ⟨name, listed, rfl⟩
  unfold layered
  rw [forall_keys_override (own (by decide)), forall_keys_override (own (by decide)),
    forall_keys_override (own (by decide)), forall_keys_override (own (by decide))]

section
variable {strict allow : Option Bool}

theorem layered_root : Value.find? (.text "project_root") (layered env c strict allow fields)
    = some (.text (rootOf env c)) := by
  rw [layered, find?_override_self]
  rfl

theorem layered_strict : Value.find? (.text "strict") (layered env c strict allow fields)
    = ((c.strict.or strict).map .bool).or (Value.find? (.text "strict") fields) := by
  rw [layered, find?_override_of_ne (by decide), find?_override_of_ne (by decide),
    find?_override_of_ne (by decide), find?_override_self]

theorem layered_allowMissing :
    Value.find? (.text "allow_missing_spec") (layered env c strict allow fields)
      = ((c.allowMissing.or allow).map .bool).or
        (Value.find? (.text "allow_missing_spec") fields) := by
  rw [layered, find?_override_of_ne (by decide), find?_override_of_ne (by decide),
    find?_override_self, find?_override_of_ne (by decide)]

theorem layered_format :
    Value.find? (.text "output_format") (layered env c strict allow fields)
      = ((c.format.or (env.filled? Environment.format)).map .text).or
        (Value.find? (.text "output_format") fields) := by
  rw [layered, find?_override_of_ne (by decide), find?_override_self,
    find?_override_of_ne (by decide), find?_override_of_ne (by decide)]

end

theorem layered_settles_iff {strict allow : Option Bool}
    (noRoot : Value.find? (.text "project_root") fields = none)
    (isStrict : env.Means Environment.strict strict)
    (isAllow : env.Means Environment.allowMissing allow) :
    ofRecord (.map (layered env c strict allow fields)) = .ok s ↔ Settles env c fields s := by
  have readText_text (t : Text) : readText (.text t) = .ok t := rfl
  have readBool_bool (b : Bool) : readBool (.bool b) = .ok b := rfl
  have same {o : Option Bool} {name : Text} {b : Option Bool} (first : env.Means name o)
      (second : env.Means name b) : o = b :=
    Except.ok.inj ((Environment.bool?_eq_ok_iff.mpr first).symm.trans
      (Environment.bool?_eq_ok_iff.mpr second))
  rw [ofRecord_eq_ok_iff, reads_format_iff, layered_root, layered_strict, layered_allowMissing,
    layered_format, layered_known, known_iff noRoot, reads_some_iff]
  simp only [← takes_iff readText_text, ← takes_iff readBool_bool]
  constructor
  · rintro ⟨isRoot, takesStrict, takesAllow, takesFormat, known⟩
    exact ⟨(Except.ok.inj isRoot).symm, ⟨strict, isStrict, takesStrict⟩,
      ⟨allow, isAllow, takesAllow⟩, takesFormat, known⟩
  · rintro ⟨isRoot, ⟨o, means, takesStrict⟩, ⟨o', means', takesAllow⟩, takesFormat, known⟩
    cases same means isStrict
    cases same means' isAllow
    exact ⟨congrArg Except.ok isRoot.symm, takesStrict, takesAllow, takesFormat, known⟩

theorem resolve_of_refused [Host] {f : Failure}
    (refused : loadSection disk (rootOf env c) = .error f) : resolve disk env c = .error f := by
  simp only [resolve, refused]
  rfl

theorem resolve_eq_ok_iff [Host] : resolve disk env c = .ok s
    ↔ ∃ fields, loadSection disk (rootOf env c) = .ok fields ∧ Settles env c fields s := by
  constructor
  · intro resolved
    cases loaded : loadSection disk (rootOf env c) with
    | error f =>
      rw [resolve_of_refused loaded] at resolved
      cases resolved
    | ok fields =>
      rw [resolve_of_loaded loaded] at resolved
      obtain ⟨strict, isStrict, resolved⟩ := bind_eq_ok_iff.mp resolved
      obtain ⟨allow, isAllow, resolved⟩ := bind_eq_ok_iff.mp resolved
      have means := Environment.bool?_eq_ok_iff.mp (mapError_eq_ok_iff.mp isStrict)
      have means' := Environment.bool?_eq_ok_iff.mp (mapError_eq_ok_iff.mp isAllow)
      have noRoot := (section_of_loadSection loaded).2
      have made := mapError_eq_ok_iff.mp resolved
      exact ⟨fields, rfl, (layered_settles_iff noRoot means means').mp made⟩
  · rintro ⟨fields, loaded, settles⟩
    obtain ⟨strict, means, -⟩ := settles.strict
    obtain ⟨allow, means', -⟩ := settles.allowMissing
    have noRoot := (section_of_loadSection loaded).2
    have made := (layered_settles_iff noRoot means means').mpr settles
    rw [resolve_of_loaded loaded, Environment.bool?_eq_ok_iff.mpr means,
      Environment.bool?_eq_ok_iff.mpr means']
    exact mapError_eq_ok_iff.mpr made

/-- The fields that a layer above the section sets. -/
def IsSet (env : Environment) (c : Choices) (name : Text) : Prop :=
  name = "strict" ∧ (c.strict.isSome ∨ env.stripped Environment.strict ≠ [])
    ∨ name = "allow_missing_spec"
      ∧ (c.allowMissing.isSome ∨ env.stripped Environment.allowMissing ≠ [])
    ∨ name = "output_format" ∧ (c.format.isSome ∨ (env.filled? Environment.format).isSome)

theorem isSet_strict_iff : IsSet env c (Text.ofString "strict")
    ↔ c.strict.isSome ∨ env.stripped Environment.strict ≠ [] := by
  simp [IsSet, Text.ofString_inj]

theorem isSet_allowMissing_iff : IsSet env c (Text.ofString "allow_missing_spec")
    ↔ c.allowMissing.isSome ∨ env.stripped Environment.allowMissing ≠ [] := by
  simp [IsSet, Text.ofString_inj]

theorem isSet_format_iff : IsSet env c (Text.ofString "output_format")
    ↔ c.format.isSome ∨ (env.filled? Environment.format).isSome := by
  simp [IsSet, Text.ofString_inj]

/-- Two entries under one key, whose values differ only where the key is hidden. -/
def AgreeBut (hidden : Text → Prop) (e e' : Scalar × Value) : Prop :=
  e.1 = e'.1 ∧ (e.2 = e'.2 ∨ ∃ name, e.1 = .text name ∧ hidden name)

section
variable {hidden : Text → Prop} {name : Text}

theorem AgreeBut.shown {e e' : Scalar × Value} (agree : AgreeBut hidden e e')
    (other : e.1 ≠ .text name) : AgreeBut (fun t => hidden t ∧ t ≠ name) e e' := by
  refine ⟨agree.1, agree.2.imp_right ?_⟩
  rintro ⟨t, isKey, isHidden⟩
  exact ⟨t, isKey, isHidden, fun same => other (isKey.trans (congrArg Scalar.text same))⟩

theorem agree_shown (agree : List.Forall₂ (AgreeBut hidden) fields fields')
    (others : ∀ e ∈ fields, e.1 ≠ .text name) :
    List.Forall₂ (AgreeBut fun t => hidden t ∧ t ≠ name) fields fields' := by
  induction agree with
  | nil => exact .nil
  | cons here _ ih =>
    obtain ⟨other, others⟩ := List.forall_mem_cons.mp others
    exact .cons (here.shown other) (ih others)

theorem put_agree {v : Value} (distinct : Value.DistinctKeys fields)
    (agree : List.Forall₂ (AgreeBut hidden) fields fields') :
    List.Forall₂ (AgreeBut fun t => hidden t ∧ t ≠ name)
      (Value.put (.text name) v fields) (Value.put (.text name) v fields') := by
  induction agree with
  | nil => exact .cons ⟨rfl, .inl rfl⟩ .nil
  | @cons e e' rest rest' here there ih =>
    obtain ⟨apart, below⟩ := List.pairwise_cons.mp distinct
    obtain ⟨k, v⟩ := e
    obtain ⟨k', v'⟩ := e'
    obtain rfl : k = k' := here.1
    simp only [Value.put]
    split
    · rename_i same
      -- keys are distinct, so nothing is hidden under this one further on
      rw [Value.sameKey_text_iff.mp same] at apart
      have others : ∀ x ∈ rest, x.1 ≠ .text name := fun x inside isKey => by
        have differ := apart x inside
        rw [isKey, Value.sameKey_text_iff.mpr rfl] at differ
        cases differ
      exact .cons ⟨rfl, .inl rfl⟩ (agree_shown there others)
    · rename_i differ
      exact .cons (here.shown fun isKey => differ (Value.sameKey_text_iff.mpr isKey)) (ih below)

theorem eq_of_agree (agree : List.Forall₂ (AgreeBut hidden) fields fields')
    (none : ∀ t, ¬ hidden t) : fields = fields' := by
  induction agree with
  | nil => rfl
  | cons here _ ih =>
    have value := here.2.resolve_right fun ⟨t, _, isHidden⟩ => none t isHidden
    rw [ih, Prod.ext here.1 value]

theorem find?_isSome_agree (agree : List.Forall₂ (AgreeBut hidden) fields fields') :
    (Value.find? (.text name) fields).isSome = (Value.find? (.text name) fields').isSome := by
  induction agree with
  | nil => rfl
  | @cons e e' rest rest' here _ ih =>
    obtain ⟨k, v⟩ := e
    obtain ⟨k', v'⟩ := e'
    obtain ⟨rfl, -⟩ : k = k' ∧ _ := here
    rw [Value.find?_cons_text, Value.find?_cons_text]
    split
    · rfl
    · exact ih

end

theorem override_agree {hidden : Text → Prop} {name : String} {value : Option Value}
    (distinct : Value.DistinctKeys fields)
    (agree : List.Forall₂ (AgreeBut hidden) fields fields')
    (covered : value = none → ¬ hidden name) :
    Value.DistinctKeys (override name value fields)
      ∧ List.Forall₂ (AgreeBut fun t => hidden t ∧ t ≠ name) (override name value fields)
        (override name value fields') := by
  cases value with
  | some v => exact ⟨Value.distinctKeys_put distinct, put_agree distinct agree⟩
  | none =>
    refine ⟨distinct, agree.imp ?_⟩
    rintro e e' ⟨isKey, same | ⟨t, isText, isHidden⟩⟩
    · exact ⟨isKey, .inl same⟩
    · exact ⟨isKey, .inr ⟨t, isText, isHidden, fun same => covered rfl (same ▸ isHidden)⟩⟩

theorem layered_eq {strict allow : Option Bool} (distinct : Value.DistinctKeys fields)
    (isStrict : env.Means Environment.strict strict)
    (isAllow : env.Means Environment.allowMissing allow)
    (agree : List.Forall₂ (AgreeBut (IsSet env c)) fields fields') :
    layered env c strict allow fields = layered env c strict allow fields' := by
  have noFormat (nothing : (c.format.or (env.filled? Environment.format)).map Value.text = none) :
      ¬ (c.format.isSome ∨ (env.filled? Environment.format).isSome) := by
    obtain ⟨noLine, noVar⟩ := Option.or_eq_none_iff.mp (Option.map_eq_none_iff.mp nothing)
    simp [noLine, noVar]
  obtain ⟨distinct, agree⟩ := override_agree distinct agree fun nothing isSet =>
    isStrict.unset nothing (isSet_strict_iff.mp isSet)
  obtain ⟨distinct, agree⟩ := override_agree distinct agree fun nothing isSet =>
    isAllow.unset nothing (isSet_allowMissing_iff.mp isSet.1)
  obtain ⟨distinct, agree⟩ := override_agree distinct agree fun nothing isSet =>
    noFormat nothing (isSet_format_iff.mp isSet.1.1)
  have nowhere : ∀ t, ¬ (((IsSet env c t ∧ t ≠ Text.ofString "strict")
      ∧ t ≠ Text.ofString "allow_missing_spec") ∧ t ≠ Text.ofString "output_format") := by
    rintro t ⟨⟨⟨same | same | same, notStrict⟩, notAllow⟩, notFormat⟩
    · exact notStrict same.1
    · exact notAllow same.1
    · exact notFormat same.1
  unfold layered
  rw [eq_of_agree agree nowhere]

theorem resolve_masked [Host] (has : Section disk (rootOf env c) fields)
    (has' : Section disk' (rootOf env c) fields')
    (agree : List.Forall₂ (AgreeBut (IsSet env c)) fields fields') :
    resolve disk' env c = resolve disk env c := by
  have rooted : (Spec.field? fields "project_root").isSome
      = (Spec.field? fields' "project_root").isSome := find?_isSome_agree agree
  have loaded := has.loadSection
  have loaded' := has'.loadSection
  rw [← rooted] at loaded'
  split at loaded
  · rename_i inside
    rw [if_pos inside] at loaded'
    rw [resolve_of_refused loaded, resolve_of_refused loaded']
  · rename_i noRoot
    rw [if_neg noRoot] at loaded'
    rw [resolve_of_loaded loaded, resolve_of_loaded loaded']
    cases strict : env.bool? Environment.strict with
    | error fault => rfl
    | ok isStrict =>
      cases allow : env.bool? Environment.allowMissing with
      | error fault => rfl
      | ok isAllow =>
        have same := layered_eq has.distinct (Environment.bool?_eq_ok_iff.mp strict)
          (Environment.bool?_eq_ok_iff.mp allow) agree
        show (ofRecord (.map (layered env c isStrict isAllow fields'))).mapError _ = _
        rw [← same]
        rfl

theorem refused_of_failsOnly {r : Except Failure Settings} (documented : FailsOnly IsConfig r)
    (fails : ∀ s, r ≠ .ok s) : ∃ f, r = .error f ∧ IsConfig f := by
  cases documented with
  | ok _ => exact absurd rfl (fails _)
  | error config => exact ⟨_, rfl, config⟩

theorem resolve_failsOnly [Host] (loads : FailsOnly IsConfig (loadSection disk (rootOf env c))) :
    FailsOnly IsConfig (resolve disk env c) := by
  obtain ⟨next, resolved, following⟩ := resolve_eq disk env c
  rw [resolved]
  exact (bind_documented following).1.mpr loads

theorem Section.failsOnly [Host] (has : Section disk root fields) :
    FailsOnly IsConfig (Settings.loadSection disk root) := by
  rw [has.loadSection]
  exact .ite (refuse_yields _) (.ok trivial)

/-- A variable that means no truth value is refused whatever the command line says. -/
theorem resolve_malformed [Host] (loads : FailsOnly IsConfig (loadSection disk (rootOf env c)))
    (bad : env.Malformed Environment.strict ∨ env.Malformed Environment.allowMissing) :
    ∃ f, resolve disk env c = .error f ∧ IsConfig f := by
  refine refused_of_failsOnly (resolve_failsOnly loads) fun s resolved => ?_
  obtain ⟨fields, -, settles⟩ := resolve_eq_ok_iff.mp resolved
  rcases bad with bad | bad
  · obtain ⟨o, means, -⟩ := settles.strict
    exact bad.not_means means
  · obtain ⟨o, means, -⟩ := settles.allowMissing
    exact bad.not_means means

theorem resolve_unknown [Host] (has : Section disk (rootOf env c) fields)
    (unknown : ¬ ∀ e ∈ fields, IsNamed sectionFields e.1) :
    ∃ f, resolve disk env c = .error f ∧ IsConfig f := by
  refine refused_of_failsOnly (resolve_failsOnly has.failsOnly) fun s resolved => ?_
  obtain ⟨loaded, found, settles⟩ := resolve_eq_ok_iff.mp resolved
  have written := has.loadSection
  rw [found] at written
  split at written
  · cases written
  · cases written
    exact unknown settles.known

structure SameFile (file : Path) (disk disk' : Disk) : Prop where
  isFile : disk.isFile file = disk'.isFile file
  readBytes : disk.readBytes file = disk'.readBytes file

theorem resolve_sameFile [Host] (same : SameFile (fileIn (rootOf env c)) disk disk') :
    resolve disk' env c = resolve disk env c := by
  have text : disk.readText (fileIn (rootOf env c)) = disk'.readText (fileIn (rootOf env c)) := by
    simp only [Disk.readText, same.readBytes]
  have loaded : loadSection disk' (rootOf env c) = loadSection disk (rootOf env c) := by
    have isFile := same.isFile
    unfold fileIn at isFile text
    simp only [loadSection, isFile, text]
  simp only [resolve, loaded]

theorem noRoot_of_known (known : ∀ e ∈ fields, IsNamed sectionFields e.1) :
    Value.find? (.text "project_root") fields = none := by
  refine Option.map_eq_none_iff.mpr (List.find?_eq_none.mpr fun e there isRoot => ?_)
  obtain ⟨name, listed, isKey⟩ := known e there
  have apart : ∀ name ∈ sectionFields, Text.ofString name ≠ Text.ofString "project_root" := by
    decide
  rw [Value.sameKey_text_iff, isKey] at isRoot
  exact apart name listed (Scalar.text.inj isRoot)

/-- Where the settings come from. The root is the first that is given, only the file in it has any
influence, and each setting is taken from the strongest layer that has it. What the section has for
a field that is set above it does not matter, but a variable that means no truth value and a key
that is no field of a section are refused in any case. -/
theorem resolve_by_precedence [Host] (disk : Disk) (env : Environment) (c : Choices) :
    Rooted env c (rootOf env c)
      ∧ (∀ disk', SameFile (fileIn (rootOf env c)) disk disk' →
        resolve disk' env c = resolve disk env c)
      ∧ (∀ s, resolve disk env c = .ok s
        ↔ ∃ fields, Section disk (rootOf env c) fields ∧ Settles env c fields s)
      ∧ (∀ fields disk' fields', Section disk (rootOf env c) fields →
        Section disk' (rootOf env c) fields' →
        List.Forall₂ (AgreeBut (IsSet env c)) fields fields' →
        resolve disk' env c = resolve disk env c)
      ∧ (FailsOnly IsConfig (loadSection disk (rootOf env c)) →
        env.Malformed Environment.strict ∨ env.Malformed Environment.allowMissing →
        ∃ f, resolve disk env c = .error f ∧ IsConfig f)
      ∧ ∀ fields, Section disk (rootOf env c) fields →
        (¬ ∀ e ∈ fields, IsNamed sectionFields e.1) →
        ∃ f, resolve disk env c = .error f ∧ IsConfig f := by
  refine ⟨rootOf_rooted env c, fun disk' same => resolve_sameFile same, fun s => ?_,
    fun fields disk' fields' has has' agree => resolve_masked has has' agree, resolve_malformed,
    fun fields has unknown => resolve_unknown has unknown⟩
  rw [resolve_eq_ok_iff]
  refine exists_congr fun fields => and_congr_left fun settles => ⟨fun loaded => ?_, fun has => ?_⟩
  · exact (section_of_loadSection loaded).1
  · have noRoot := noRoot_of_known settles.known
    rw [has.loadSection, Spec.field?, noRoot]
    rfl

/-- The texts under the keys of a section that has nothing else. -/
def textPairs? : List (Scalar × Value) → Option (List (Text × Text))
  | [] => some []
  | (.text name, .scalar (.text t)) :: rest => (textPairs? rest).map fun pairs => (name, t) :: pairs
  | _ => none

theorem eq_of_textPairs? {pairs : List (Text × Text)} (all : textPairs? fields = some pairs) :
    fields = pairs.map fun pair => (.text pair.1, .text pair.2) := by
  fun_induction textPairs? fields generalizing pairs with
  | case1 => cases all; rfl
  | case2 name t rest ih =>
    obtain ⟨others, found, rfl⟩ := Option.map_eq_some_iff.mp all
    rw [ih found]
    rfl
  | case3 => cases all

/-- A project whose section has a truth value that is none, and one that differs in it. -/
def maybeDisk : Disk :=
  .withFile "dispatch.yaml" "safety: \x7bstrict: maybe, output_format: JSON\x7d"

def ratherDisk : Disk :=
  .withFile "dispatch.yaml" "safety: \x7bstrict: rather, output_format: JSON\x7d"

theorem section_of_textPairs [Host] (pairs : List (Text × Text))
    (all : (loadSection disk root).toOption.bind textPairs? = some pairs) :
    Section disk root (pairs.map fun pair => (.text pair.1, .text pair.2)) := by
  obtain ⟨fields, loaded, found⟩ := Option.bind_eq_some_iff.mp all
  rw [← eq_of_textPairs? found]
  exact (section_of_loadSection (toOption_eq_some_iff.mp loaded)).1

theorem off_masks_maybe :
    resolve maybeDisk [("DISPATCHLINT_STRICT", " Off ")] ⟨none, none, some true, none⟩
        = .ok ⟨".", false, true, .json⟩
      ∧ resolve ratherDisk [("DISPATCHLINT_STRICT", " Off ")] ⟨none, none, some true, none⟩
        = resolve maybeDisk [("DISPATCHLINT_STRICT", " Off ")] ⟨none, none, some true, none⟩
      ∧ ∃ f, resolve maybeDisk [("DISPATCHLINT_STRICT", "maybe")] ⟨none, some true, none, none⟩
        = .error f ∧ IsConfig f := by
  have has : Section maybeDisk "." [(.text "strict", .text "maybe"),
      (.text "output_format", .text "JSON")] :=
    section_of_textPairs [("strict", "maybe"), ("output_format", "JSON")] (by decide +kernel)
  have has' : Section ratherDisk "." [(.text "strict", .text "rather"),
      (.text "output_format", .text "JSON")] :=
    section_of_textPairs [("strict", "rather"), ("output_format", "JSON")] (by decide +kernel)
  have off := resolve_by_precedence maybeDisk [("DISPATCHLINT_STRICT", " Off ")]
    ⟨none, none, some true, none⟩
  have maybe := resolve_by_precedence maybeDisk [("DISPATCHLINT_STRICT", "maybe")]
    ⟨none, some true, none, none⟩
  have isSet : IsSet [("DISPATCHLINT_STRICT", " Off ")] ⟨none, none, some true, none⟩ "strict" :=
    .inl ⟨rfl, .inr (by decide +kernel)⟩
  refine ⟨toOption_eq_some_iff.mp (by decide +kernel), ?_, ?_⟩
  · exact off.2.2.2.1 _ _ _ has has'
      (.cons ⟨rfl, .inr ⟨_, rfl, isSet⟩⟩ (.cons ⟨rfl, .inl rfl⟩ .nil))
  · refine maybe.2.2.2.2.1 has.failsOnly (.inl ⟨?_, ?_, ?_⟩)
    · decide +kernel
    · decide +kernel
    · decide +kernel

end Settings
end ExposureLint
