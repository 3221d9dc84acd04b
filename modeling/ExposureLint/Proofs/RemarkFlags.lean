import Mathlib
import ExposureLint.Proofs.ExitCode
import ExposureLint.Proofs.SameData

/-!
What the flags for remarks have to do with the data: nothing. Two runs whose command lines differ
only in such flags end with the same exit code, the same data stream and the same disk.
-/
namespace ExposureLint

/-- Choices that differ in the remarks that they ask for, if at all. -/
structure RootChoices.SameData (c c' : RootChoices) : Prop where
  json : c.json = c'.json
  plain : c.plain = c'.plain
  noColor : c.noColor = c'.noColor
  requests : c.requests = c'.requests

namespace RootChoices.SameData
variable {c c' : RootChoices}

theorem refl (c : RootChoices) : c.SameData c := ⟨rfl, rfl, rfl, rfl⟩

theorem symm (same : c.SameData c') : c'.SameData c :=
  ⟨same.json.symm, same.plain.symm, same.noColor.symm, same.requests.symm⟩

theorem trans {c'' : RootChoices} (same : c.SameData c') (more : c'.SameData c'') :
    c.SameData c'' :=
  ⟨same.json.trans more.json, same.plain.trans more.plain, same.noColor.trans more.noColor,
    same.requests.trans more.requests⟩

theorem format (same : c.SameData c') : c.format = c'.format := by
  simp only [RootChoices.format, same.json, same.plain]

end RootChoices.SameData

def RootChoices.Followed {α : Type} (x x' : RootChoices × α) : Prop :=
  x.1.SameData x'.1 ∧ x.2 = x'.2

/-- A flag that is about remarks, or several short ones behind one hyphen. -/
inductive RemarkFlag : Text → Prop
  | quiet : RemarkFlag "--quiet"
  | verbose : RemarkFlag "--verbose"
  | letters (t : Text) (nonempty : t ≠ [])
      (each : ∀ c ∈ t, c = CodePoint.ofChar 'q' ∨ c = CodePoint.ofChar 'v') :
      RemarkFlag (CodePoint.ofChar '-' :: t)

/-- Command lines that differ only in flags for remarks, among the options that come in front of the
command. -/
inductive SameButRemarks : List Text → List Text → Prop
  | command (name : Text) (own : List Text) : SameButRemarks (name :: own) (name :: own)
  | option {args args' : List Text} (arg : Text) (isOption : CommandOption.looksLikeOption arg)
      (isNoEnd : arg ≠ Text.ofString "--") (rest : SameButRemarks args args') :
      SameButRemarks (arg :: args) (arg :: args')
  | added {args args' : List Text} {flag : Text} (isFlag : RemarkFlag flag)
      (rest : SameButRemarks args args') : SameButRemarks args (flag :: args')
  | removed {args args' : List Text} {flag : Text} (isFlag : RemarkFlag flag)
      (rest : SameButRemarks args args') : SameButRemarks (flag :: args) args'

namespace RootChoices
open CommandOption
variable {c c' : RootChoices} {arg flag : Text} {args args' : List Text}

/-- What one argument is read as, from choices with the same data: as flags only, which leave
choices with the same data again. -/
inductive ReadAlike : Read RootChoices → Read RootChoices → Prop
  | done {c c' : RootChoices} (same : c.SameData c') : ReadAlike (.done c) (.done c')

/-- All options in front of the command are flags, and none looks at the flags for remarks. -/
theorem options_are_flags {o : CommandOption RootChoices} (there : o ∈ options) :
    ∃ set, o.effect = .flag set ∧ ∀ c c', c.SameData c' → (set c).SameData (set c') := by
  simp only [options, List.mem_cons, List.not_mem_nil, or_false] at there
  rcases there with rfl | rfl | rfl | rfl | rfl | rfl | rfl <;>
    refine ⟨_, rfl, fun c c' same => ⟨?_, ?_, ?_, ?_⟩⟩ <;>
    simp [same.json, same.plain, same.noColor, same.requests]

theorem named_is_flag {name : Text} {o : CommandOption RootChoices}
    (found : named? options name = some o) :
    ∃ set, o.effect = .flag set ∧ ∀ c c', c.SameData c' → (set c).SameData (set c') :=
  options_are_flags (List.mem_of_find?_eq_some found)

theorem readShort_alike (same : c.SameData c') (t : Text) :
    GoAlike ReadAlike (readShort options c t) (readShort options c' t) := by
  induction t generalizing c c' with
  | nil => exact .ok (.done same)
  | cons letter rest ih =>
    simp only [readShort]
    cases found : named? options [CodePoint.ofChar '-', letter] with
    | none => exact .error _
    | some o =>
      obtain ⟨set, isFlag, keeps⟩ := named_is_flag found
      simp only [isFlag]
      exact ih (keeps c c' same)

theorem readOne_alike (same : c.SameData c') (arg : Text) :
    GoAlike ReadAlike (readOne options c arg) (readOne options c' arg) := by
  have short : GoAlike ReadAlike
      (if (arg.drop 1).head?.any isHyphen
        then .error (.unknownOption (arg.takeWhile fun c => !isEquals c))
        else readShort options c (arg.drop 1))
      (if (arg.drop 1).head?.any isHyphen
        then .error (.unknownOption (arg.takeWhile fun c => !isEquals c))
        else readShort options c' (arg.drop 1)) := by
    split
    · exact .error _
    · exact readShort_alike same _
  simp only [readOne]
  split
  · rename_i o long
    have found : named? options (arg.takeWhile fun c => !isEquals c) = some o := by
      split at long
      · cases long
      · exact long
    obtain ⟨set, isFlag, keeps⟩ := named_is_flag found
    rw [isFlag]
    cases (arg.drop (arg.takeWhile fun c => !isEquals c).length).tail? with
    | none => exact .ok (.done (keeps c c' same))
    | some value => exact .error _
  · exact short

theorem readShort_remarks {t : Text}
    (each : ∀ letter ∈ t, letter = CodePoint.ofChar 'q' ∨ letter = CodePoint.ofChar 'v') :
    ∃ c', readShort options c t = .ok (.done c') ∧ c.SameData c' := by
  induction t generalizing c with
  | nil => exact ⟨c, rfl, .refl c⟩
  | cons letter rest ih =>
    obtain ⟨first, others⟩ := List.forall_mem_cons.mp each
    rcases first with rfl | rfl
    · obtain ⟨c', read, same⟩ := ih (c := { c with quiet := true }) others
      exact ⟨c', read, same.json, same.plain, same.noColor, same.requests⟩
    · obtain ⟨c', read, same⟩ := ih (c := { c with verbose := true }) others
      exact ⟨c', read, same.json, same.plain, same.noColor, same.requests⟩

theorem names_shape : ∀ o ∈ options, ∀ n ∈ o.names,
    (Text.ofString n)[1]? = some (CodePoint.ofChar '-') ∨ (Text.ofString n).length = 2 := by
  decide

theorem not_named_long {first second : CodePoint} {rest : Text}
    (noHyphen : isHyphen first = false) :
    named? options (CodePoint.ofChar '-' :: first :: second :: rest) = .none := by
  refine List.find?_eq_none.mpr fun o there named => ?_
  obtain ⟨n, listed, equal⟩ := List.any_eq_true.mp named
  rcases names_shape o there n listed with hyphen | short
  · rw [eq_of_beq equal] at hyphen
    cases hyphen
    cases noHyphen
  · rw [eq_of_beq equal] at short
    simp at short

theorem readOne_letters {t : Text} (nonempty : t ≠ [])
    (each : ∀ letter ∈ t, letter = CodePoint.ofChar 'q' ∨ letter = CodePoint.ofChar 'v') :
    readOne options c (CodePoint.ofChar '-' :: t) = readShort options c t := by
  have noEquals : (CodePoint.ofChar '-' :: t).takeWhile (fun c => !isEquals c)
      = CodePoint.ofChar '-' :: t := by
    refine List.takeWhile_eq_self_iff.mpr (List.forall_mem_cons.mpr ⟨rfl, fun letter there => ?_⟩)
    rcases each letter there with rfl | rfl <;> rfl
  obtain ⟨first, rest, rfl⟩ := List.exists_cons_of_ne_nil nonempty
  have noHyphen : isHyphen first = false := by
    rcases each first List.mem_cons_self with rfl | rfl <;> rfl
  have long : (if isShort (CodePoint.ofChar '-' :: first :: rest) then Option.none
      else named? options (CodePoint.ofChar '-' :: first :: rest)) = .none := by
    cases rest with
    | nil => simp [isShort, noHyphen]
    | cons second others => simp [isShort, not_named_long noHyphen]
  simp only [readOne, noEquals, long]
  simp [noHyphen]

theorem readOne_remarks (isFlag : RemarkFlag flag) :
    ∃ c', readOne options c flag = .ok (.done c') ∧ c.SameData c' := by
  cases isFlag with
  | quiet => exact ⟨{ c with quiet := true }, rfl, rfl, rfl, rfl, rfl⟩
  | verbose => exact ⟨{ c with verbose := true }, rfl, rfl, rfl, rfl, rfl⟩
  | letters t nonempty each =>
    rw [readOne_letters nonempty each]
    exact readShort_remarks each

theorem looksLikeOption_remarks (isFlag : RemarkFlag flag) :
    looksLikeOption flag = true ∧ flag ≠ Text.ofString "--" := by
  cases isFlag with
  | quiet => exact ⟨rfl, by decide⟩
  | verbose => exact ⟨rfl, by decide⟩
  | letters t nonempty each =>
    obtain ⟨first, rest, rfl⟩ := List.exists_cons_of_ne_nil nonempty
    refine ⟨by simp [looksLikeOption, isHyphen], fun equal => ?_⟩
    injection equal with _ same
    injection same with hyphen _
    rcases each first List.mem_cons_self with rfl | rfl <;> cases hyphen

theorem readAll_remarks (isFlag : RemarkFlag flag) :
    ∃ d, readAll options false c (flag :: args) = readAll options false d args
      ∧ c.SameData d := by
  obtain ⟨d, read, same⟩ := readOne_remarks (c := c) isFlag
  obtain ⟨isOption, isNoEnd⟩ := looksLikeOption_remarks isFlag
  refine ⟨d, ?_, same⟩
  rw [readAll, if_neg (by simpa using isNoEnd), if_pos isOption, read]

theorem readAll_option (same : c.SameData c') (isOption : looksLikeOption arg)
    (isNoEnd : arg ≠ Text.ofString "--")
    (others : ∀ d d' : RootChoices, d.SameData d' →
      GoAlike Followed (readAll options false d args) (readAll options false d' args')) :
    GoAlike Followed (readAll options false c (arg :: args))
      (readAll options false c' (arg :: args')) := by
  have isNoEnd : ¬ (arg == Text.ofString "--") = true := by simpa using isNoEnd
  rw [readAll, if_neg isNoEnd, if_pos isOption, readAll, if_neg isNoEnd, if_pos isOption]
  have read := readOne_alike same arg
  generalize readOne options c arg = one at read ⊢
  generalize readOne options c' arg = one' at read ⊢
  cases read with
  | error misuse => exact .error misuse
  | ok alike =>
    cases alike with
    | done same => exact others _ _ same

theorem readAll_alike (same : c.SameData c') (args : List Text) :
    GoAlike Followed (readAll options false c args) (readAll options false c' args) := by
  induction args generalizing c c' with
  | nil => exact .ok ⟨same, rfl⟩
  | cons arg rest ih =>
    by_cases isEnd : arg = Text.ofString "--"
    · subst isEnd
      exact .ok ⟨same, rfl⟩
    cases isOption : looksLikeOption arg with
    | true => exact readAll_option same isOption isEnd fun _ _ => ih
    | false =>
      have stops (d : RootChoices) :
          readAll options false d (arg :: rest) = .ok (d, arg :: rest) := by
        rw [readAll, if_neg (by simpa using isEnd), isOption]
        rfl
      rw [stops, stops]
      exact .ok ⟨same, rfl⟩

/-- Flags for remarks change nothing else in what is read of the options. -/
theorem readAll_sameButRemarks (lines : SameButRemarks args args') (same : c.SameData c') :
    GoAlike Followed (readAll options false c args) (readAll options false c' args') := by
  -- by the way in which the lines differ: a flag on one side changes the choices on that side only
  induction lines generalizing c c' with
  | command name own => exact readAll_alike same _
  | option arg isOption isNoEnd _ ih => exact readAll_option same isOption isNoEnd fun _ _ => ih
  | added isFlag _ ih =>
    obtain ⟨d, read, flagged⟩ := readAll_remarks (c := c') isFlag
    rw [read]
    exact ih (same.trans flagged)
  | removed isFlag _ ih =>
    obtain ⟨d, read, flagged⟩ := readAll_remarks (c := c) isFlag
    rw [read]
    exact ih (flagged.symm.trans same)

theorem readOptions_sameButRemarks (lines : SameButRemarks args args') :
    GoAlike Followed (readOptions args) (readOptions args') := by
  unfold readOptions
  have alike := readAll_sameButRemarks lines (.refl .none)
  generalize readAll options false .none args = line at alike ⊢
  generalize readAll options false .none args' = line' at alike ⊢
  cases alike with
  | error misuse => exact .error _
  | @ok line line' followed =>
    obtain ⟨c, rest⟩ := line
    obtain ⟨c', rest'⟩ := line'
    show GoAlike Followed (Refusal.unlessAsked c.requests _) (Refusal.unlessAsked c'.requests _)
    rw [followed.1.requests]
    cases c'.requests with
    | nil => exact .ok followed
    | cons request _ => exact .error _

end RootChoices

theorem SameButRemarks.isEmpty {args args' : List Text} (lines : SameButRemarks args args') :
    args.isEmpty = false ∧ args'.isEmpty = false := by
  induction lines with
  | command name own => exact ⟨rfl, rfl⟩
  | option arg isOption isNoEnd _ ih => exact ⟨rfl, rfl⟩
  | added isFlag _ ih => exact ⟨ih.1, rfl⟩
  | removed isFlag _ ih => exact ⟨rfl, ih.2⟩

namespace RootChoices
variable {args args' : List Text}

theorem read_sameButRemarks (lines : SameButRemarks args args') :
    GoAlike Followed (read args) (read args') := by
  unfold read
  rw [lines.isEmpty.1, lines.isEmpty.2]
  refine .bind (readOptions_sameButRemarks lines) fun line line' alike => ?_
  obtain ⟨c, rest⟩ := line
  obtain ⟨c', rest'⟩ := line'
  obtain ⟨same, equal⟩ := alike
  cases equal
  cases rest with
  | nil => exact .error _
  | cons name own =>
    dsimp only
    cases Command.ofName? name with
    | some command => exact .ok ⟨same, rfl⟩
    | none => exact .bind (.same _) fun _ _ _ => .error _

end RootChoices

/-- Outcomes with the same data; their remarks may differ. -/
structure Cli.Outcome.SameData (o o' : Cli.Outcome) : Prop where
  code : o.code = o'.code
  data : o.streams.data = o'.streams.data
  disk : o.disk = o'.disk

namespace Cli
open Act
variable {s s' : Session} {root root' : RootChoices} {args args' : List Text}
  {around : Surroundings}

theorem saysAlike_runCommand [Host] (disk : Disk) (same : root.SameData root') (command : Command)
    (own : List Text) :
    SaysAlike around Eq (runCommand disk root command own) (runCommand disk root' command own) := by
  unfold runCommand
  rw [same.format, same.noColor]
  refine saysAlike_orTell (saysAlike_ofExcept (.same _)) fun format _ equal => ?_
  subst equal
  refine .bind saysAlike_present fun _ _ _ => .bind tellsAlike_configureLog fun _ _ _ => ?_
  cases CommandChoices.read command own with
  | ok choices => exact saysAlike_perform disk format command choices
  | error refusal => exact saysAlike_refuse (some command) refusal

theorem saysAlike_runArguments [Host] (disk : Disk)
    (read : GoAlike RootChoices.Followed (RootChoices.read args) (RootChoices.read args')) :
    SaysAlike around Eq (runArguments disk args) (runArguments disk args') := by
  unfold runArguments
  generalize RootChoices.read args = line at read ⊢
  generalize RootChoices.read args' = line' at read ⊢
  cases read with
  | error refusal => exact saysAlike_refuse none refusal
  | @ok line line' alike =>
    obtain ⟨root, command, own⟩ := line
    obtain ⟨root', command', own'⟩ := line'
    obtain ⟨same, rest⟩ := alike
    cases rest
    exact saysAlike_runCommand disk same command own

theorem leave_sameData (disk : Disk) (message : Text) (code : Int)
    (kept : Session.SameData around s s') :
    (leave disk message code s).SameData (leave disk message code s') := by
  obtain ⟨said, kept⟩ := tellsAlike_remark .error message s s' kept
  unfold leave Act.run
  generalize Id.run _ = left at said kept ⊢
  generalize Id.run _ = left' at said kept ⊢
  obtain ⟨last, t⟩ := left
  obtain ⟨last', t'⟩ := left'
  cases said with
  | ok _ => exact ⟨rfl, kept.data, rfl⟩
  | error f => cases f <;> exact ⟨rfl, kept.data, rfl⟩

theorem conclude_sameData [Host] (disk : Disk) (stamp : Text) (interruption : Interruption)
    (kept : Session.SameData around s s') :
    (conclude disk stamp interruption s).SameData (conclude disk stamp interruption s') := by
  cases interruption with
  | exit code => exact ⟨rfl, kept.data, rfl⟩
  | interrupt => exact ⟨rfl, congrArg (· ++ []) kept.data, rfl⟩
  | failure f =>
    cases f with
    | lint e => exact leave_sameData disk e.message e.exitCode kept
    | mishap m =>
      simp only [conclude, kept.place, kept.place']
      split
      · exact ⟨rfl, kept.data, rfl⟩
      · exact leave_sameData _ _ crashCode kept

/-- Flags for remarks change neither the exit code nor anything on the data stream, nor what is left
on the disk. -/
theorem run_sameButRemarks [Host] (disk : Disk) (surroundings : Surroundings) (stamp : Text)
    {args args' : List Text} (lines : SameButRemarks args args') :
    (run disk surroundings stamp args).SameData (run disk surroundings stamp args') := by
  have fresh : (Session.start surroundings).SameData surroundings (.start surroundings) :=
    ⟨rfl, rfl, .none, rfl, rfl⟩
  have read := RootChoices.read_sameButRemarks lines
  obtain ⟨ran, kept⟩ := saysAlike_runArguments disk read _ _ fresh
  unfold run Act.run
  generalize Id.run _ = left at ran kept ⊢
  generalize Id.run _ = left' at ran kept ⊢
  obtain ⟨result, s⟩ := left
  obtain ⟨result', s'⟩ := left'
  cases ran with
  | ok equal =>
    cases equal
    exact conclude_sameData disk stamp (.exit _) kept
  | error f => exact conclude_sameData disk stamp (.failure f) kept

theorem flags_of_open_write_check :
    SameButRemarks ["--json", "check"] ["-qv", "--json", "--verbose", "check"]
      ∧ (run openWriteDisk ⟨false, []⟩ [] ["--json", "check"]).SameData
        (run openWriteDisk ⟨false, []⟩ [] ["-qv", "--json", "--verbose", "check"])
      ∧ (run openWriteDisk ⟨false, []⟩ [] ["--json", "check"]).streams.remarks
        ≠ (run openWriteDisk ⟨false, []⟩ [] ["-qv", "--json", "--verbose", "check"]).streams.remarks
        := by
  have lines : SameButRemarks ["--json", "check"] ["-qv", "--json", "--verbose", "check"] :=
    .added (.letters "qv" (by decide) (by decide)) (.option "--json" rfl (by decide)
      (.added .verbose (.command "check" [])))
  exact ⟨lines, run_sameButRemarks openWriteDisk ⟨false, []⟩ [] lines, by decide +kernel⟩

end Cli
end ExposureLint
