import Mathlib
import ExposureLint.Proofs.Channels
import ExposureLint.Proofs.EffectiveFormat
import ExposureLint.Proofs.SessionHistory

/-!
Records of settings that are accepted. What is read from them can be written and read again without
a change, and names a format that a session can be switched to, whatever presentation it has; and no
such record can have one key more.
-/
namespace ExposureLint

def Presentation.IsMadeIn (surroundings : Surroundings) (p : Presentation) : Prop :=
  ∃ (format : OutputFormat) (flags : Flags), flags.presentation surroundings format = .ok p

namespace Act
variable {s s' : Session} {p : Presentation} {f : Failure}

theorem run_applyNamed_installed (installed : s.presentation = some p)
    (made : p.IsMadeIn s.surroundings) (format : OutputFormat) :
    (applyNamed format.name).run s
      = (.ok (p.inFormat format), s.showing (p.inFormat format)) := by
  obtain ⟨first, flags, isMade⟩ := made
  exact run_applyNamed_name (run_current installed) isMade format

theorem applyFormat_error {format : OutputFormat} (installed : s.presentation = some p)
    (failed : (applyFormat format).run s = (.error f, s')) :
    ∃ fault, s.surroundings.columns = .error fault ∧ f = .mishap (.number fault) := by
  rw [applyFormat, run_bind_ok (run_current installed)] at failed
  split at failed
  · cases failed
  · split at failed
    · cases failed
    · cases made : Presentation.make s.surroundings format p.noColor p.quiet p.verbose with
      | ok q => cases (run_present made).symm.trans failed
      | error fault =>
        cases (run_present_error made).symm.trans failed
        exact ⟨fault, Presentation.make_eq_error_iff.mp made, rfl⟩

/-- Whatever a session has installed, only the size of the screen can be in the way of a format. -/
theorem applyNamed_name_error {format : OutputFormat}
    (failed : (applyNamed format.name).run s = (.error f, s')) :
    ∃ fault, s.surroundings.columns = .error fault ∧ f = .mishap (.number fault) := by
  have known : OutputFormat.ofName? format.name = some format :=
    OutputFormat.ofName?_eq_some_iff.mpr rfl
  rcases shown : current.run s with ⟨r, now⟩
  cases r with
  | ok p =>
    obtain ⟨installed, same⟩ := run_current_ok shown
    rw [run_applyNamed shown, known] at failed
    have place : now.surroundings = s.surroundings := same ▸ Session.showing_surroundings
    exact place ▸ applyFormat_error installed failed
  | error e =>
    cases (run_applyNamed_error shown format.name).symm.trans failed
    cases installed : s.presentation with
    | some p => cases (run_current installed).symm.trans shown
    | none =>
      rw [run_current_absent installed] at shown
      split at shown
      · cases shown
      · rename_i fault refused
        cases shown
        exact ⟨fault, Presentation.make_eq_error_iff.mp refused, rfl⟩

end Act

namespace Settings
open Record

variable {record : Value} {entries entries' : List (Scalar × Value)} {settings : Settings}

theorem ofRecord_of_entries (mapping : record.entries? = some entries) :
    ofRecord record = ofRecord (.map entries) := by
  have whole : (Value.map entries).entries? = some entries := rfl
  simp only [ofRecord, Record.optional, unknownKeys, finish, mapping, whole, Option.isNone_some,
    Bool.false_eq_true, if_false]

theorem exists_entries_of_ofRecord (accepted : ofRecord record = .ok settings) :
    ∃ entries, record.entries? = some entries := by
  rw [ofRecord, finish] at accepted
  split at accepted
  · cases accepted
  · rename_i mapping
    exact Option.ne_none_iff_exists'.mp (by simpa using mapping)

theorem ofRecord_toRecord (s : Settings) : ofRecord s.toRecord = .ok s := by
  refine ofRecord_eq_ok_iff.mpr ⟨.written rfl, .written rfl, .written rfl, .written ?_, ?_⟩
  · exact readFormat_eq_ok_iff.mpr ⟨s.format.name, rfl, s.format.lower_name.symm⟩
  · simp [IsNamed, fields]

theorem refused_of_unknown {e : Scalar × Value} (there : e ∈ entries')
    (unknown : ¬ IsNamed fields e.1) : ∃ why, ofRecord (.map entries') = .error why := by
  cases read : ofRecord (.map entries') with
  | error why => exact ⟨why, rfl⟩
  | ok s => exact absurd ((ofRecord_eq_ok_iff.mp read).2.2.2.2 e there) unknown

/-- A record that is accepted gives settings that are stable and can be used. Their own record is
accepted and gives the same again. The format in it has a name in lower case, one of four, and to
switch a session to it never fails where a presentation is installed that was made there; without
one it can fail only like the making of any presentation, for the size of the screen. And with one
more key, which is not the name of a field, the record is refused, wherever the key stands. -/
theorem accepted_settings_stable (accepted : ofRecord record = .ok settings) :
    ofRecord settings.toRecord = .ok settings
      ∧ (∃ name, Spec.fieldOf? settings.toRecord "output_format" = some (.text name)
        ∧ name.lower = name ∧ name ∈ (["auto", "json", "plain", "rich"] : List Text)
        ∧ (∀ (s : Session) (p : Presentation), s.presentation = some p →
          p.IsMadeIn s.surroundings →
          ∃ s', (Act.applyNamed name).run s = (.ok (p.inFormat settings.format), s'))
        ∧ ∀ (s s' : Session) (f : Failure), (Act.applyNamed name).run s = (.error f, s') →
          ∃ fault, s.surroundings.columns = .error fault ∧ f = .mishap (.number fault))
      ∧ ∃ entries, record.entries? = some entries ∧ ofRecord (.map entries) = .ok settings
        ∧ ∀ (k : Scalar) (v : Value) (more : List (Scalar × Value)), ¬ IsNamed fields k →
          more.Perm ((k, v) :: entries) → ∃ why, ofRecord (.map more) = .error why := by
  obtain ⟨entries, mapping⟩ := exists_entries_of_ofRecord accepted
  refine ⟨ofRecord_toRecord settings, ⟨settings.format.name, rfl, settings.format.lower_name,
    ?listed, ?installed, ?otherwise⟩, entries, mapping,
    (ofRecord_of_entries mapping).symm.trans accepted, ?unknown⟩
  case listed => cases settings.format <;> decide
  case installed =>
    intro s p installed made
    exact ⟨_, Act.run_applyNamed_installed installed made settings.format⟩
  case otherwise => exact fun s s' f failed => Act.applyNamed_name_error failed
  case unknown =>
    intro k v more unknown perm
    exact refused_of_unknown (perm.symm.subset List.mem_cons_self) unknown

def mixedRecord : Value := .map [
  (.text "output_format", .text "Rich"), (.text "strict", .scalar (.int 1)),
  (.text "allow_missing_spec", .text "ON"), (.text "project_root", .scalar (.bytes [0xC3, 0xBC]))]

def mixedSettings : Settings := ⟨"ü", true, true, .rich⟩

theorem mixed_stable :
    ofRecord mixedRecord = .ok mixedSettings
      ∧ ofRecord mixedSettings.toRecord = .ok mixedSettings
      ∧ (∃ name s', Spec.fieldOf? mixedSettings.toRecord "output_format" = some (.text name)
        ∧ (Act.applyNamed name).run (Report.freshSession Report.plainPresentation)
          = (.ok { Report.plainPresentation with rendering := .rich }, s'))
      ∧ ∃ entries, mixedRecord.entries? = some entries
        ∧ ∃ why, ofRecord (.map ((.text "strictt", .bool true) :: entries)) = .error why := by
  have accepted : ofRecord mixedRecord = .ok mixedSettings :=
    toOption_eq_some_iff.mp (by decide +kernel)
  obtain ⟨again, ⟨name, there, -, -, switches, -⟩, entries, mapping, -, closed⟩ :=
    accepted_settings_stable accepted
  have made : Report.plainPresentation.IsMadeIn ⟨false, []⟩ :=
    ⟨.auto, .none, toOption_eq_some_iff.mp (by decide +kernel)⟩
  obtain ⟨s', ran⟩ := switches (Report.freshSession Report.plainPresentation) _ rfl made
  have unknown : ¬ IsNamed fields (.text "strictt") := by
    rintro ⟨f, listed, same⟩
    revert f
    decide
  exact ⟨accepted, again, ⟨name, s', there, ran⟩, entries, mapping,
    closed _ _ _ unknown (.refl _)⟩

end Settings
end ExposureLint
