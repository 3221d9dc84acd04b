import Mathlib
import ExposureLint.Proofs.Amendment
import ExposureLint.Proofs.Authentication
import ExposureLint.Proofs.ParseFailure

/-!
The remedies that a report advises do remedy. An operation that is made public with a reason gives
no finding any more, one that asks for a scheme is not blocked any more, and what is found about all
others stays the same. Making public all operations that give findings leaves none.
-/
namespace ExposureLint

namespace Spec

variable {document : Value} {reason : Text} {requirements : Value}

def publicised (reason : Text) (fields : List (Scalar × Value)) : List (Scalar × Value) :=
  Value.put (.text "x-reason") (.text reason) (Value.put (.text "x-public") (.bool true) fields)

def secured (requirements : Value) (fields : List (Scalar × Value)) : List (Scalar × Value) :=
  Value.put (.text "security") requirements fields

/-- The change that makes public what is chosen, each for a reason of its own. -/
def publicising (chosen : Declaration → Bool) (reason : Declaration → Text) : Change :=
  fun d => if chosen d then some (publicised (reason d) d.fields) else none

theorem field?_publicised (fields : List (Scalar × Value)) {name : Text}
    (other : name ≠ Text.ofString "x-reason") (other' : name ≠ Text.ofString "x-public") :
    field? (publicised reason fields) name = field? fields name := by
  rw [field?, publicised, Value.find?_put_of_ne other, Value.find?_put_of_ne other', ← field?]

theorem field?_publicised_isPublic (fields : List (Scalar × Value)) :
    field? (publicised reason fields) "x-public" = some (.bool true) := by
  rw [field?, publicised, Value.find?_put_of_ne (by decide), Value.find?_put_self]

theorem field?_publicised_reason (fields : List (Scalar × Value)) :
    field? (publicised reason fields) "x-reason" = some (.text reason) := by
  rw [field?, publicised, Value.find?_put_self]

theorem field?_secured (fields : List (Scalar × Value)) {name : Text}
    (other : name ≠ Text.ofString "security") :
    field? (secured requirements fields) name = field? fields name := by
  rw [field?, secured, Value.find?_put_of_ne other, ← field?]

theorem field?_secured_security (fields : List (Scalar × Value)) :
    field? (secured requirements fields) "security" = some requirements := by
  rw [field?, secured, Value.find?_put_self]

namespace Declaration
variable {d : Declaration} {op : Operation}

theorem Describes.publicised [Host] (describes : d.Describes document op) (given : reason ≠ []) :
    (d.withFields (publicised reason d.fields)).Describes document
      { op with isPublic := true, reason := some reason } := by
  have kept {name : Text} (other : name ≠ Text.ofString "x-reason")
      (other' : name ≠ Text.ofString "x-public") :
      field? (d.withFields (Spec.publicised reason d.fields)).fields name = field? d.fields name :=
    field?_publicised d.fields other other'
  have isPublic : (d.withFields (Spec.publicised reason d.fields)).isPublic = true := by
    simp only [Declaration.isPublic, withFields, field?_publicised_isPublic]
    rfl
  have kept' : (d.withFields (Spec.publicised reason d.fields)).reason? = some (.text reason) := by
    have something : (Value.text reason).isNothing = false := by
      simpa [Value.text, Value.isNothing, Scalar.isNothing] using given
    rw [reason?, isPublic, if_pos rfl, withFields, field?_publicised_reason]
    simp [Option.filter, something]
  constructor
  · exact describes.path
  · exact describes.method
  · rw [describes.hasBody, Declaration.hasBody, Declaration.hasBody, kept (by decide) (by decide)]
  · rw [describes.hasPathParams, hasPathParameter, hasPathParameter, kept (by decide) (by decide)]
  · have security := describes.security
    rw [schemes, requirements] at security ⊢
    rwa [kept (by decide) (by decide)]
  · exact isPublic.symm
  · rw [kept']
    rfl

theorem schemes_secured : (d.withFields (secured requirements d.fields)).schemes document
    = schemesIn (itemsOf (some requirements)) := by
  simp only [schemes, Declaration.requirements, withFields, field?_secured_security, schemesIn]

theorem Describes.secured [Host] (describes : d.Describes document op) {names : List Text}
    (named : List.Forall₂ (fun s t => s.display? = .ok t)
      (schemesIn (itemsOf (some requirements))) names) :
    (d.withFields (secured requirements d.fields)).Describes document
      { op with security := names } := by
  have kept {name : Text} (other : name ≠ Text.ofString "security") :
      field? (d.withFields (Spec.secured requirements d.fields)).fields name
        = field? d.fields name := field?_secured d.fields other
  have isPublic : (d.withFields (Spec.secured requirements d.fields)).isPublic = d.isPublic := by
    rw [Declaration.isPublic, Declaration.isPublic, kept (by decide)]
  constructor
  · exact describes.path
  · exact describes.method
  · rw [describes.hasBody, Declaration.hasBody, Declaration.hasBody, kept (by decide)]
  · rw [describes.hasPathParams, hasPathParameter, hasPathParameter, kept (by decide)]
  · rw [schemes_secured]
    exact named
  · rw [describes.isPublic, isPublic]
  · rw [reason?, isPublic, kept (by decide)]
    exact describes.reason

theorem exists_describes_secured_iff [Host] (describes : d.Describes document op) :
    (∃ op', (d.withFields (Spec.secured requirements d.fields)).Describes document op')
      ↔ ∀ k ∈ schemesIn (itemsOf (some requirements)), ∃ t, k.display? = .ok t := by
  rw [← exists_forall₂_iff]
  constructor
  · rintro ⟨op', describes'⟩
    have named := describes'.security
    rw [schemes_secured] at named
    exact ⟨op'.security, named⟩
  · rintro ⟨names, named⟩
    exact ⟨_, describes.secured named⟩

theorem Describes.findings_secured [Host] (describes : d.Describes document op)
    (asks : schemesIn (itemsOf (some requirements)) ≠ []) {op' : Operation}
    (describes' : (d.withFields (Spec.secured requirements d.fields)).Describes document op') :
    Finding.ofOperation op' = (Rule.check op .publicWithoutReason).toList := by
  have named := describes'.security
  rw [schemes_secured] at named
  have same : op' = { op with security := op'.security } :=
    describes'.unique (describes.secured named)
  have some' : op'.security ≠ [] := by
    intro none'
    rw [none', List.forall₂_nil_right_iff] at named
    exact asks named
  rw [same]
  exact Finding.ofOperation_secured some'

theorem amend_publicising {chosen : Declaration → Bool} {reason : Declaration → Text} :
    d.amend (publicising chosen reason)
      = if chosen d then d.withFields (Spec.publicised (reason d) d.fields) else d := by
  unfold amend publicising
  cases chosen d <;> rfl

end Declaration
end Spec

namespace Report

open Spec

variable {specPath : Option Path} {document : Value} {r : Report}

/-- Where every declaration, changed or not, has a record of one kind, there is a report with
records of that kind alone. -/
theorem exists_amended [Host] {change : Change} {P : Operation → Prop}
    (built : (ofDocument specPath document).outcome.1 = .ok r)
    (each : ∀ d ∈ Declaration.all document, ∀ op, d.Describes document op →
      ∃ op', (d.amend change).Describes document op' ∧ P op') :
    ∃ s, (ofDocument specPath (amended change document)).outcome.1 = .ok s
      ∧ ∀ op ∈ s.operations, P op := by
  obtain ⟨mapping, texts, described, -⟩ := ofDocument_eq_ok_iff_sorted.mp built
  have recorded := exists_forall₂_iff.mp ⟨_, described⟩
  have amends : ∀ d ∈ Declaration.sorted document,
      ∃ op', (d.amend change).Describes (amended change document) op' ∧ P op' := by
    intro d here
    obtain ⟨op, describes⟩ := recorded d here
    obtain ⟨op', describes', good⟩ :=
      each d ((Declaration.sorted_perm document).mem_iff.mp here) op describes
    exact ⟨op', describes'.of_defaults defaults_amended.symm, good⟩
  obtain ⟨records, rows⟩ := exists_forall₂_iff.mpr amends
  have described' : List.Forall₂ (Declaration.Describes (amended change document))
      (Declaration.sorted (amended change document)) records := by
    rw [Declaration.sorted_amended, List.forall₂_map_left_iff]
    exact rows.imp fun _ _ both => both.1
  have good : ∀ op ∈ records, P op := by
    have flipped := rows.flip.imp fun _ _ both => And.symm both
    exact ((List.forall₂_and_left _ _).mp flipped).1
  exact ⟨ofOperations specPath _ records, ofDocument_eq_ok_iff_sorted.mpr
    ⟨entries?_amended mapping, keysHaveTexts_amended texts, described', rfl⟩, good⟩

theorem exists_describes_of_mem [Host] {d : Declaration}
    (built : (ofDocument specPath document).outcome.1 = .ok r)
    (declared : d ∈ Declaration.all document) : ∃ op, d.Describes document op := by
  obtain ⟨-, -, described, -⟩ := ofDocument_eq_ok_iff_sorted.mp built
  have here := (Declaration.sorted_perm document).mem_iff.mpr declared
  exact exists_forall₂_iff.mp ⟨_, described⟩ d here

theorem findings_eq_nil_iff [Host] (built : (ofDocument specPath document).outcome.1 = .ok r) :
    r.findings = [] ↔ ∀ op ∈ r.operations, Finding.ofOperation op = [] := by
  rw [findings_eq_flatMap built, List.flatMap_eq_nil_iff]

theorem isBlocking_of_findings_eq_nil [Host]
    (built : (ofDocument specPath document).outcome.1 = .ok r) (nothing : r.findings = [])
    (strict : Bool) : r.isBlocking strict = false := by
  have safe : r.safe = true := by
    rw [safe_eq_isSafe built, nothing]
    rfl
  cases strict <;> simp [isBlocking, nothing, safe]

section
variable [Host] {d : Declaration} (keyed : document.isKeyed = true)
  (built : (ofDocument specPath document).outcome.1 = .ok r)
  (declared : d ∈ Declaration.all document)
include keyed built declared

theorem replaces_publicised {reason : Text} (given : reason ≠ []) :
    ∃ s op op', (ofDocument specPath
          (d.replaced (publicised reason d.fields) document)).outcome.1 = .ok s
      ∧ Replaces document d (publicised reason d.fields) r s op op'
      ∧ Finding.ofOperation op' = [] := by
  obtain ⟨op, describes⟩ := exists_describes_of_mem built declared
  have publicised' := describes.publicised given
  obtain ⟨s, built'⟩ := (exists_replaced_iff keyed built declared).mpr ⟨_, publicised'⟩
  obtain ⟨first, second, replaces⟩ := exists_replaces keyed built declared built'
  refine ⟨s, first, second, built', replaces, ?_⟩
  rw [(replaces.new.of_defaults defaults_amended).unique publicised']
  exact Finding.ofOperation_publicised reason

theorem replaces_secured {requirements : Value} {s : Report}
    (asks : schemesIn (itemsOf (some requirements)) ≠ [])
    (built' : (ofDocument specPath
      (d.replaced (secured requirements d.fields) document)).outcome.1 = .ok s) :
    ∃ op op', Replaces document d (secured requirements d.fields) r s op op'
      ∧ (∀ f ∈ Finding.ofOperation op', f.severity ≠ .block)
      ∧ (d.isUnexplained = false → Finding.ofOperation op' = []) := by
  obtain ⟨op, op', replaces⟩ := exists_replaces keyed built declared built'
  have left : Finding.ofOperation op' = (Rule.check op .publicWithoutReason).toList :=
    replaces.old.findings_secured asks (replaces.new.of_defaults defaults_amended)
  refine ⟨op, op', replaces, ?_, ?_⟩
  · intro f found
    rw [left, Option.mem_toList, Rule.check, Option.ite_none_right_eq_some] at found
    obtain ⟨-, made⟩ := found
    rw [← Option.some.inj made]
    simp [Rule.severity]
  · intro explained
    rw [left, Rule.check, replaces.old.isBroken_publicWithoutReason, explained]
    rfl

end

theorem publicising_silences [Host] {chosen : Declaration → Bool} {reason : Declaration → Text}
    (built : (ofDocument specPath document).outcome.1 = .ok r)
    (given : ∀ d ∈ Declaration.all document, chosen d = true → reason d ≠ [])
    (flagged : ∀ d ∈ Declaration.all document, ∀ op, d.Describes document op →
      Finding.ofOperation op ≠ [] → chosen d = true) :
    ∃ s, (ofDocument specPath (amended (publicising chosen reason) document)).outcome.1 = .ok s
      ∧ s.findings = [] ∧ ∀ strict, s.isBlocking strict = false := by
  have each : ∀ d ∈ Declaration.all document, ∀ op, d.Describes document op →
      ∃ op', (d.amend (publicising chosen reason)).Describes document op'
        ∧ Finding.ofOperation op' = [] := by
    intro d here op describes
    rw [Declaration.amend_publicising]
    cases picked : chosen d with
    | true =>
      have publicised' := describes.publicised (given d here picked)
      rw [if_pos rfl]
      exact ⟨_, publicised', Finding.ofOperation_publicised (reason d)⟩
    | false =>
      -- What is not chosen gave no finding before, and keeps its record.
      have silent : Finding.ofOperation op = [] := by
        by_contra found
        rw [flagged d here op describes found] at picked
        contradiction
      rw [if_neg Bool.false_ne_true]
      exact ⟨op, describes, silent⟩
  obtain ⟨s, built', silent⟩ := exists_amended built each
  have nothing := (findings_eq_nil_iff built').mpr silent
  exact ⟨s, built', nothing, isBlocking_of_findings_eq_nil built' nothing⟩

/-- Both remedies work where mappings have distinct keys, as they have in every document from a
file. An operation made public for a reason gives no finding; one that is given requirements that
name a scheme gives none that blocks, and none at all unless it is public without a reason, and
there is a report on it just when the schemes have texts. Either way the records of all other
operations stay, and so does what is found about them. And where at least the operations that give
findings are made public, each for some reason, nothing is found and nothing blocks. -/
theorem remedies_silence_findings [Host]
    (built : (ofDocument specPath document).outcome.1 = .ok r) :
    (∀ disk file, parse disk file = .ok document → document.isKeyed = true)
      ∧ (document.isKeyed = true →
        (∀ d ∈ Declaration.all document, ∀ reason : Text, reason ≠ [] →
          ∃ s op op', (ofDocument specPath
                (d.replaced (publicised reason d.fields) document)).outcome.1 = .ok s
            ∧ Replaces document d (publicised reason d.fields) r s op op'
            ∧ Finding.ofOperation op' = [])
        ∧ ∀ d ∈ Declaration.all document, ∀ requirements : Value,
          schemesIn (itemsOf (some requirements)) ≠ [] →
          ((∃ s, (ofDocument specPath
                (d.replaced (secured requirements d.fields) document)).outcome.1 = .ok s)
            ↔ ∀ k ∈ schemesIn (itemsOf (some requirements)), ∃ t, k.display? = .ok t)
          ∧ ∀ s, (ofDocument specPath
                (d.replaced (secured requirements d.fields) document)).outcome.1 = .ok s →
              ∃ op op', Replaces document d (secured requirements d.fields) r s op op'
                ∧ (∀ f ∈ Finding.ofOperation op', f.severity ≠ .block)
                ∧ (d.isUnexplained = false → Finding.ofOperation op' = []))
      ∧ ∀ (chosen : Declaration → Bool) (reason : Declaration → Text),
          (∀ d ∈ Declaration.all document, chosen d = true → reason d ≠ []) →
          (∀ d ∈ Declaration.all document, ∀ op, d.Describes document op →
            Finding.ofOperation op ≠ [] → chosen d = true) →
          ∃ s, (ofDocument specPath
                (amended (publicising chosen reason) document)).outcome.1 = .ok s
            ∧ s.findings = [] ∧ ∀ strict, s.isBlocking strict = false := by
  refine ⟨fun disk file parsed => parse_isKeyed parsed, fun keyed => ⟨?publicise, ?secure⟩, ?all⟩
  case publicise =>
    intro d declared reason given
    exact replaces_publicised keyed built declared given
  case secure =>
    intro d declared requirements asks
    constructor
    · obtain ⟨op, describes⟩ := exists_describes_of_mem built declared
      rw [exists_replaced_iff keyed built declared]
      exact Declaration.exists_describes_secured_iff describes
    · intro s built'
      exact replaces_secured keyed built declared asks built'
  case all =>
    intro chosen reason given flagged
    exact publicising_silences built given flagged

theorem sample_remedies :
    ∃ r, sampleDocument.isKeyed = true
      ∧ (ofDocument none sampleDocument).outcome.1 = .ok r
      ∧ (∃ s op op', (ofDocument none (sampleWrite.replaced
            (publicised "open data" sampleWrite.fields) sampleDocument)).outcome.1 = .ok s
        ∧ Replaces sampleDocument sampleWrite (publicised "open data" sampleWrite.fields) r s op op'
        ∧ Finding.ofOperation op' = [])
      ∧ schemesIn (itemsOf (some keyRequirement)) ≠ []
      ∧ (∃ s op op', (ofDocument none (sampleWrite.replaced
            (secured keyRequirement sampleWrite.fields) sampleDocument)).outcome.1 = .ok s
        ∧ Replaces sampleDocument sampleWrite (secured keyRequirement sampleWrite.fields) r s op op'
        ∧ Finding.ofOperation op' = [])
      ∧ ∃ s, (ofDocument none (amended (publicising (fun _ => true) (fun _ => "open data"))
            sampleDocument)).outcome.1 = .ok s
        ∧ s.findings = [] ∧ ∀ strict, s.isBlocking strict = false := by
  have built : (ofDocument none sampleDocument).outcome.1
      = .ok (ofOperations none (some "3.0.0") sampleOperations) := rfl
  have keyed : sampleDocument.isKeyed = true := rfl
  have declared : sampleWrite ∈ Declaration.all sampleDocument := by
    rw [all_sample]
    exact .tail _ (.tail _ (.head _))
  have given : Text.ofString "open data" ≠ [] := by decide
  have asks : schemesIn (itemsOf (some keyRequirement)) ≠ [] :=
    schemesIn_keyRequirement ▸ List.cons_ne_nil _ _
  have texts : ∀ k ∈ schemesIn (itemsOf (some keyRequirement)), ∃ t, k.display? = .ok t := by
    rw [schemesIn_keyRequirement]
    exact fun k here => ⟨"key", List.mem_singleton.mp here ▸ rfl⟩
  obtain ⟨-, remedies, publiciseAll⟩ := remedies_silence_findings built
  obtain ⟨publicise, secure⟩ := remedies keyed
  obtain ⟨reported, left⟩ := secure sampleWrite declared keyRequirement asks
  obtain ⟨s, built'⟩ := reported.mpr texts
  obtain ⟨op, op', replaces, -, silent⟩ := left s built'
  exact ⟨_, keyed, built, publicise sampleWrite declared "open data" given, asks,
    ⟨s, op, op', built', replaces, silent rfl⟩,
    publiciseAll (fun _ => true) (fun _ => "open data") (fun _ _ _ => given) fun _ _ _ _ _ => rfl⟩

end Report
end ExposureLint
