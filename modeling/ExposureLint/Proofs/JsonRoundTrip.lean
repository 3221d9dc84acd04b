import Mathlib
import ExposureLint.Proofs.DistinctKeys
import ExposureLint.Proofs.JsonScalars

/-!
What is written as JSON is read again. A value of texts, integers, truth values and nulls, in lists
and in mappings with distinct keys, comes back as it was.
-/
namespace ExposureLint.Json

section
variable {style : Style} {level : Nat} {t rest : Text}

theorem skipSpace_blanks {blanks : Text} (pos : Nat) (blank : ∀ c ∈ blanks, At.isSpace c = true)
    (start : ∀ c ∈ t.head?, At.isSpace c = false) :
    At.skipSpace ⟨pos, blanks ++ t⟩ = ⟨pos + blanks.length, t⟩ := by
  have ends : t.takeWhile At.isSpace = [] := by
    cases t with
    | nil => rfl
    | cons c _ => simp [start c rfl]
  rw [At.skipSpace, List.takeWhile_append_of_pos blank, ends, List.append_nil, At.skip,
    List.drop_left]

theorem lineBreak_blank (style : Style) (level : Nat) :
    ∀ c ∈ lineBreak style level, At.isSpace c = true := by
  unfold lineBreak
  split
  · refine List.forall_mem_cons.mpr ⟨rfl, fun c among => ?_⟩
    rw [List.eq_of_mem_replicate among]
    rfl
  · exact List.forall_mem_nil _

theorem separator_eq (style : Style) (level : Nat) :
    ∃ gap, separator style level = CodePoint.ofChar ',' :: gap ∧ ∀ c ∈ gap, At.isSpace c = true := by
  unfold separator
  split
  · exact ⟨lineBreak style level, rfl, lineBreak_blank style level⟩
  · exact ⟨[CodePoint.ofChar ' '], rfl, List.forall_mem_singleton.mpr rfl⟩

/-- What stands behind the last part of a container. -/
def closing (style : Style) (level : Nat) (close : Char) (rest : Text) : Text :=
  lineBreak style level ++ CodePoint.ofChar close :: rest

theorem skipSpace_closing (style : Style) (level : Nat) (close : Char) (rest : Text) (pos : Nat)
    (visible : At.isSpace (CodePoint.ofChar close) = false) :
    ∃ pos', At.skipSpace ⟨pos, closing style level close rest⟩
      = ⟨pos', CodePoint.ofChar close :: rest⟩ := by
  refine ⟨_, skipSpace_blanks pos (lineBreak_blank style level) ?_⟩
  intro c first
  cases first
  exact visible

theorem stops_closing {close : Char} (ends : close = ']' ∨ close = '\x7d') :
    Stops (closing style level close rest) := by
  have first : Stops (CodePoint.ofChar close :: rest) := by
    intro c head
    cases head
    rcases ends with rfl | rfl
    · exact .inr (.inl rfl)
    · exact .inr (.inr (.inl rfl))
  unfold closing lineBreak
  split
  · intro c head
    cases head
    exact .inr (.inr (.inr rfl))
  · exact first

theorem stops_separator (style : Style) (level : Nat) (tail : Text) :
    Stops (separator style level ++ tail) := by
  obtain ⟨gap, form, -⟩ := separator_eq style level
  rw [form]
  intro c head
  cases head
  exact .inl rfl

end

theorem skip_separator (style : Style) (level pos : Nat) {tail : Text}
    (visible : ∀ c ∈ tail.head?, At.isSpace c = false) :
    At.skipSpace ⟨pos, separator style level ++ tail⟩ = ⟨pos, separator style level ++ tail⟩
      ∧ At.next ',' ⟨pos, separator style level ++ tail⟩ = true
      ∧ At.next ']' ⟨pos, separator style level ++ tail⟩ = false
      ∧ At.next '\x7d' ⟨pos, separator style level ++ tail⟩ = false
      ∧ ∃ pos', (At.skip 1 ⟨pos, separator style level ++ tail⟩).skipSpace = ⟨pos', tail⟩ := by
  obtain ⟨gap, form, blank⟩ := separator_eq style level
  rw [form, List.cons_append]
  refine ⟨rfl, rfl, rfl, rfl, pos + 1 + gap.length, ?_⟩
  exact skipSpace_blanks (pos + 1) blank visible

section
variable {style : Style} {level fuel room pos : Nat} {name t tail rest : Text} {x : Value}

theorem items_last
    (first : ∀ pos, Leaves (value fuel room ⟨pos, t ++ closing style level ']' rest⟩) x
      (closing style level ']' rest)) :
    Leaves (items (fuel + 1) room ⟨pos, t ++ closing style level ']' rest⟩) [x] rest := by
  obtain ⟨behind, read⟩ := first pos
  obtain ⟨pos', skipped⟩ := skipSpace_closing style level ']' rest behind rfl
  refine ⟨pos' + 1, ?_⟩
  simp only [items, read, bind, Except.bind, skipped]
  rfl

theorem items_more {xs : List Value}
    (first : ∀ pos, Leaves (value fuel room ⟨pos, t ++ (separator style level ++ tail)⟩) x
      (separator style level ++ tail))
    (visible : ∀ c ∈ tail.head?, At.isSpace c = false)
    (others : ∀ pos, Leaves (items fuel room ⟨pos, tail⟩) xs rest) :
    Leaves (items (fuel + 1) room ⟨pos, t ++ (separator style level ++ tail)⟩) (x :: xs) rest := by
  obtain ⟨behind, read⟩ := first pos
  obtain ⟨stays, comma, goesOn, -, pos', next⟩ := skip_separator style level behind visible
  obtain ⟨last, more⟩ := others pos'
  refine ⟨last, ?_⟩
  simp only [items, read, bind, Except.bind, stays, comma, goesOn, if_true, Bool.false_eq_true,
    if_false, next, more]
  rfl

theorem members_named (name : Text) (pos : Nat) (visible : ∀ c ∈ t.head?, At.isSpace c = false) :
    ∃ behind after, string (At.skip 1 ⟨pos, quoted false name ++ (Text.ofString ": " ++ t)⟩)
        = .ok (name, behind)
      ∧ At.next '"' ⟨pos, quoted false name ++ (Text.ofString ": " ++ t)⟩ = true
      ∧ At.next ':' behind.skipSpace = true
      ∧ (At.skip 1 behind.skipSpace).skipSpace = ⟨after, t⟩ := by
  obtain ⟨behind, read⟩ := string_quoted (pos + 1) name (Text.ofString ": " ++ t)
  rw [quoted_append]
  refine ⟨⟨behind, Text.ofString ": " ++ t⟩, behind + 1 + 1, read, rfl, rfl, ?_⟩
  have blank : ∀ c ∈ [CodePoint.ofChar ' '], At.isSpace c = true :=
    List.forall_mem_singleton.mpr rfl
  exact skipSpace_blanks (behind + 1) blank visible

theorem members_last (visible : ∀ c ∈ (t ++ closing style level '\x7d' rest).head?,
      At.isSpace c = false)
    (first : ∀ pos, Leaves (value fuel room ⟨pos, t ++ closing style level '\x7d' rest⟩) x
      (closing style level '\x7d' rest)) :
    Leaves (members (fuel + 1) room ⟨pos, quoted false name ++ (Text.ofString ": "
      ++ (t ++ closing style level '\x7d' rest))⟩) [(.text name, x)] rest := by
  obtain ⟨behind, after, named, quote, colon, start⟩ := members_named name pos visible
  obtain ⟨last, read⟩ := first after
  obtain ⟨pos', skipped⟩ := skipSpace_closing style level '\x7d' rest last rfl
  refine ⟨pos' + 1, ?_⟩
  simp only [members, quote, if_true, named, bind, Except.bind, colon, start, read, skipped]
  rfl

theorem members_more {entries : List (Scalar × Value)}
    (visible : ∀ c ∈ (t ++ (separator style level ++ tail)).head?, At.isSpace c = false)
    (first : ∀ pos, Leaves (value fuel room ⟨pos, t ++ (separator style level ++ tail)⟩) x
      (separator style level ++ tail))
    (begins : ∀ c ∈ tail.head?, At.isSpace c = false)
    (others : ∀ pos, Leaves (members fuel room ⟨pos, tail⟩) entries rest) :
    Leaves (members (fuel + 1) room ⟨pos, quoted false name ++ (Text.ofString ": "
      ++ (t ++ (separator style level ++ tail)))⟩) ((.text name, x) :: entries) rest := by
  obtain ⟨behind, after, named, quote, colon, start⟩ := members_named name pos visible
  obtain ⟨last, read⟩ := first after
  obtain ⟨stays, comma, -, goesOn, pos', next⟩ := skip_separator style level last begins
  obtain ⟨finish, more⟩ := others pos'
  refine ⟨finish, ?_⟩
  simp only [members, quote, if_true, named, bind, Except.bind, colon, start, read, stays, comma,
    goesOn, Bool.false_eq_true, if_false, next, more]
  rfl

theorem bracketed_append {parts : List Text} (some : parts ≠ []) (opening close : Char) :
    bracketed style level opening close parts ++ rest = CodePoint.ofChar opening ::
      (lineBreak style (level + 1) ++ (Text.join (separator style (level + 1)) parts
        ++ closing style level close rest)) := by
  rw [bracketed, if_neg (by simpa using some)]
  simp [closing]

theorem skip_bracket (style : Style) (level pos : Nat) {parts : Text} (rest : Text) (close : Char)
    (opens : Opens parts) :
    ∃ pos', At.skipSpace
        ⟨pos, lineBreak style (level + 1) ++ (parts ++ closing style level close rest)⟩
      = ⟨pos', parts ++ closing style level close rest⟩ :=
  ⟨_, skipSpace_blanks pos (lineBreak_blank style (level + 1)) (opens.head _)⟩

theorem value_list {parts : List Text} {xs : List Value} (some : parts ≠ [])
    (opens : Opens (Text.join (separator style (level + 1)) parts))
    (inside : ∀ pos, Leaves (items fuel room ⟨pos, Text.join (separator style (level + 1)) parts
      ++ closing style level ']' rest⟩) xs rest) :
    Leaves (value (fuel + 1) (room + 1) ⟨pos, bracketed style level '[' ']' parts ++ rest⟩)
      (.list xs) rest := by
  obtain ⟨pos', start⟩ := skip_bracket style level (pos + 1) rest ']' opens
  obtain ⟨last, read⟩ := inside pos'
  have goesOn : At.next ']' ⟨pos', Text.join (separator style (level + 1)) parts
      ++ closing style level ']' rest⟩ = false := by
    obtain ⟨c, more, shape, -, notClosed, -⟩ := opens
    rw [shape, List.cons_append, next_cons]
    exact beq_eq_false_iff_ne.mpr notClosed
  refine ⟨last, ?_⟩
  rw [bracketed_append some]
  unfold value
  have quote : (CodePoint.ofChar '[' == CodePoint.ofChar '"') = false := rfl
  simp only [next_cons, quote, Bool.false_eq_true, if_false, beq_self_eq_true, if_true, At.skip,
    List.drop_succ_cons, List.drop_zero, start, goesOn, read, bind, Except.bind]
  rfl

theorem value_map {parts : List Text} {entries : List (Scalar × Value)} (some : parts ≠ [])
    (opens : ∃ more, Text.join (separator style (level + 1)) parts = CodePoint.ofChar '"' :: more)
    (inside : ∀ pos, Leaves (members fuel room ⟨pos, Text.join (separator style (level + 1)) parts
      ++ closing style level '\x7d' rest⟩) entries rest) (distinct : Value.DistinctKeys entries) :
    Leaves (value (fuel + 1) (room + 1) ⟨pos, bracketed style level '\x7b' '\x7d' parts ++ rest⟩)
      (.map entries) rest := by
  obtain ⟨more, shape⟩ := opens
  have visible : Opens (Text.join (separator style (level + 1)) parts) :=
    ⟨_, more, shape, rfl, by decide, by decide⟩
  obtain ⟨pos', start⟩ := skip_bracket style level (pos + 1) rest '\x7d' visible
  obtain ⟨last, read⟩ := inside pos'
  have goesOn : At.next '\x7d' ⟨pos', Text.join (separator style (level + 1)) parts
      ++ closing style level '\x7d' rest⟩ = false := by
    rw [shape, List.cons_append, next_cons]
    rfl
  refine ⟨last, ?_⟩
  rw [bracketed_append some]
  unfold value
  have quote : (CodePoint.ofChar '\x7b' == CodePoint.ofChar '"') = false := rfl
  have bracket : (CodePoint.ofChar '\x7b' == CodePoint.ofChar '[') = false := rfl
  simp only [next_cons, quote, bracket, Bool.false_eq_true, if_false, beq_self_eq_true, if_true,
    At.skip, List.drop_succ_cons, List.drop_zero, start, goesOn, read, bind, Except.bind,
    Value.ofEntries_eq distinct]
  rfl

end

theorem join_cons (separator t : Text) {ts : List Text} (some : ts ≠ []) :
    Text.join separator (t :: ts) = t ++ (separator ++ Text.join separator ts) := by
  rw [Text.join, List.intercalate_cons_of_ne_nil some, List.append_assoc]
  rfl

theorem join_single (separator t : Text) : Text.join separator [t] = t := List.intercalate_singleton

theorem join_head (separator : Text) (c : CodePoint) (t : Text) (ts : List Text) :
    ∃ more, Text.join separator ((c :: t) :: ts) = c :: more := by
  cases ts with
  | nil => exact ⟨t, join_single separator (c :: t)⟩
  | cons next rest =>
    rw [join_cons separator (c :: t) (List.cons_ne_nil next rest)]
    exact ⟨_, rfl⟩

theorem Opens.join {t : Text} (opens : Opens t) (separator : Text) (ts : List Text) :
    Opens (Text.join separator (t :: ts)) := by
  obtain ⟨c, more, rfl, visible, notClosed, noMark⟩ := opens
  obtain ⟨others, shape⟩ := join_head separator c more ts
  exact ⟨c, others, shape, visible, notClosed, noMark⟩

section
variable {style : Style} {around : List Nat} {level : Nat}

theorem opens_value (plain : style.ascii = false) {v : Value} (simple : v.isSimple = true) {t : Text}
    (written : valueText style around level v = .ok t) : Opens t := by
  have bracket (close : Char) (parts : List Text) :
      Opens (bracketed style level '[' close parts) := by
    unfold bracketed
    split <;> exact ⟨_, _, rfl, rfl, by decide, by decide⟩
  have brace (close : Char) (parts : List Text) :
      Opens (bracketed style level '\x7b' close parts) := by
    unfold bracketed
    split <;> exact ⟨_, _, rfl, rfl, by decide, by decide⟩
  cases v with
  | scalar s => exact opens_scalar plain simple written
  | list items =>
    obtain ⟨parts, -, form⟩ := bind_eq_ok_iff.mp written
    cases form
    exact bracket ']' parts
  | map entries =>
    obtain ⟨parts, -, form⟩ := bind_eq_ok_iff.mp written
    cases form
    exact brace '\x7d' parts
  | _ => cases simple

theorem itemTexts_cons {x : Value} {more : List Value} {ts : List Text}
    (made : itemTexts style around level (x :: more) = .ok ts) :
    ∃ t others, ts = t :: others ∧ valueText style around level x = .ok t
      ∧ itemTexts style around level more = .ok others := by
  rw [itemTexts] at made
  obtain ⟨t, first, rest⟩ := bind_eq_ok_iff.mp made
  obtain ⟨others, there, form⟩ := bind_eq_ok_iff.mp rest
  cases form
  exact ⟨t, others, rfl, first, there⟩

theorem entryTexts_cons (plain : style.ascii = false) {e : Scalar × Value}
    {more : List (Scalar × Value)} {ts : List Text} (isText : e.1.isText = true)
    (made : entryTexts style around level (e :: more) = .ok ts) :
    ∃ name t others, e.1 = .text name
      ∧ ts = (quoted false name ++ (Text.ofString ": " ++ t)) :: others
      ∧ valueText style around level e.2 = .ok t
      ∧ entryTexts style around level more = .ok others := by
  obtain ⟨k, x⟩ := e
  cases k with
  | text name =>
    rw [entryTexts] at made
    obtain ⟨key, named, rest⟩ := bind_eq_ok_iff.mp made
    obtain ⟨t, first, rest⟩ := bind_eq_ok_iff.mp rest
    obtain ⟨others, there, form⟩ := bind_eq_ok_iff.mp rest
    cases named
    cases form
    rw [plain, List.append_assoc]
    exact ⟨name, t, others, rfl, rfl, first, there⟩
  | _ => cases isText

theorem opens_items (plain : style.ascii = false) {xs : List Value} (some : xs ≠ [])
    (simple : Value.itemsSimple xs = true) {ts : List Text}
    (made : itemTexts style around level xs = .ok ts) (separator : Text) :
    ts ≠ [] ∧ Opens (Text.join separator ts) := by
  obtain ⟨x, more, rfl⟩ := List.exists_cons_of_ne_nil some
  obtain ⟨t, others, rfl, here, -⟩ := itemTexts_cons made
  have opens := opens_value plain (Bool.and_eq_true_iff.mp simple).1 here
  exact ⟨List.cons_ne_nil t others, opens.join separator others⟩

theorem quote_entries (plain : style.ascii = false) {entries : List (Scalar × Value)}
    (some : entries ≠ []) (simple : Value.entriesSimple entries = true) {ts : List Text}
    (made : entryTexts style around level entries = .ok ts) (separator : Text) :
    ts ≠ [] ∧ ∃ more, Text.join separator ts = CodePoint.ofChar '"' :: more := by
  obtain ⟨e, more, rfl⟩ := List.exists_cons_of_ne_nil some
  have first := ((Value.entriesSimple_iff _).mp simple e List.mem_cons_self).1
  obtain ⟨name, t, others, -, rfl, -, -⟩ := entryTexts_cons plain first made
  rw [quoted_append]
  exact ⟨List.cons_ne_nil _ others, join_head separator _ _ others⟩

end

/-- A container is longer than its parts by two brackets at least. -/
theorem join_length_le (style : Style) (level : Nat) (opening close : Char) {parts : List Text}
    (some : parts ≠ []) : (Text.join (separator style (level + 1)) parts).length + 2
      ≤ (bracketed style level opening close parts).length := by
  have form : bracketed style level opening close parts ++ [] = _ :=
    bracketed_append some opening close
  have long := congrArg List.length form
  simp only [closing, List.length_append, List.length_cons, List.length_nil] at long
  omega

theorem separator_length (style : Style) (level : Nat) : 1 ≤ (separator style level).length := by
  obtain ⟨gap, form, -⟩ := separator_eq style level
  rw [form, List.length_cons]
  omega

mutual

theorem value_written {style : Style} (plain : style.ascii = false) (around : List Nat) (level : Nat)
    (v : Value) (simple : v.isSimple = true) (keyed : v.isKeyed = true) {t : Text}
    (written : valueText style around level v = .ok t) {fuel room : Nat}
    (enough : 2 * t.length ≤ fuel) (wide : t.length ≤ room) (pos : Nat) {rest : Text}
    (stops : Stops rest) : Leaves (value fuel room ⟨pos, t ++ rest⟩) v rest := by
  obtain ⟨c, after, shape, -⟩ := opens_value plain simple written
  match fuel, room with
  | 0, _ => simp [shape] at enough
  | _, 0 => simp [shape] at wide
  | fuel + 1, room + 1 =>
    clear shape
    cases v with
    | scalar s => exact value_scalar fuel (room + 1) pos plain simple written stops
    | list xs =>
      obtain ⟨parts, made, form⟩ := bind_eq_ok_iff.mp written
      cases form
      by_cases empty : xs = []
      · subst empty
        cases made
        exact ⟨pos + 2, rfl⟩
      · obtain ⟨some, opens⟩ := opens_items plain empty simple made (separator style (level + 1))
        -- the brackets leave fuel for the step into the container and for one more inside
        have long := join_length_le style level '[' ']' some
        refine value_list some opens fun pos => ?_
        exact items_written plain around level xs empty simple keyed made (by omega)
          (by omega) pos rest
    | map entries =>
      obtain ⟨parts, made, form⟩ := bind_eq_ok_iff.mp written
      cases form
      by_cases empty : entries = []
      · subst empty
        cases made
        exact ⟨pos + 2, rfl⟩
      · obtain ⟨some, opens⟩ := quote_entries plain empty simple made (separator style (level + 1))
        have long := join_length_le style level '\x7b' '\x7d' some
        refine value_map some opens (fun pos => ?_) ((Value.entriesKeyed_iff _).mp keyed).1
        exact members_written plain around level entries empty simple keyed made (by omega)
          (by omega) pos rest
    | _ => cases simple

theorem items_written {style : Style} (plain : style.ascii = false) (around : List Nat) (level : Nat)
    (xs : List Value) (some : xs ≠ []) (simple : Value.itemsSimple xs = true)
    (keyed : Value.itemsKeyed xs = true) {ts : List Text}
    (made : itemTexts style around (level + 1) xs = .ok ts) {fuel room : Nat}
    (enough : 2 * (Text.join (separator style (level + 1)) ts).length < fuel)
    (wide : (Text.join (separator style (level + 1)) ts).length ≤ room) (pos : Nat)
    (rest : Text) : Leaves (items fuel room ⟨pos, Text.join (separator style (level + 1)) ts
      ++ closing style level ']' rest⟩) xs rest := by
  cases xs with
  | nil => contradiction
  | cons x more =>
    obtain ⟨t, others, rfl, here, there⟩ := itemTexts_cons made
    obtain ⟨simpleHere, simpleThere⟩ := Bool.and_eq_true_iff.mp simple
    obtain ⟨keyedHere, keyedThere⟩ := Bool.and_eq_true_iff.mp keyed
    cases fuel with
    | zero => contradiction
    | succ fuel =>
      -- behind the last item the list is closed, behind any other there is a separator
      by_cases alone : more = []
      · subst alone
        cases there
        rw [join_single] at enough wide ⊢
        refine items_last fun pos => ?_
        exact value_written plain around (level + 1) x simpleHere keyedHere here (by omega)
          (by omega) pos (stops_closing (.inl rfl))
      · obtain ⟨several, opens⟩ :=
          opens_items plain alone simpleThere there (separator style (level + 1))
        rw [join_cons _ _ several] at enough wide ⊢
        have apart := separator_length style (level + 1)
        simp only [List.length_append] at enough wide
        rw [List.append_assoc, List.append_assoc]
        refine items_more (fun pos => ?_) (opens.head _) fun pos => ?_
        · exact value_written plain around (level + 1) x simpleHere keyedHere here (by omega)
            (by omega) pos (stops_separator style (level + 1) _)
        · exact items_written plain around level more alone simpleThere keyedThere there (by omega)
            (by omega) pos rest

theorem members_written {style : Style} (plain : style.ascii = false) (around : List Nat)
    (level : Nat) (entries : List (Scalar × Value)) (some : entries ≠ [])
    (simple : Value.entriesSimple entries = true) (keyed : Value.entriesKeyed entries = true)
    {ts : List Text} (made : entryTexts style around (level + 1) entries = .ok ts)
    {fuel room : Nat}
    (enough : 2 * (Text.join (separator style (level + 1)) ts).length < fuel)
    (wide : (Text.join (separator style (level + 1)) ts).length ≤ room) (pos : Nat)
    (rest : Text) : Leaves (members fuel room ⟨pos, Text.join (separator style (level + 1)) ts
      ++ closing style level '\x7d' rest⟩) entries rest := by
  match entries with
  | [] => contradiction
  | (k, x) :: more =>
    simp only [Value.entriesSimple, Bool.and_eq_true] at simple
    obtain ⟨⟨isText, simpleHere⟩, simpleThere⟩ := simple
    obtain ⟨-, inside⟩ := Bool.and_eq_true_iff.mp keyed
    obtain ⟨keyedHere, keyedThere⟩ := Bool.and_eq_true_iff.mp inside
    obtain ⟨name, t, others, rfl, rfl, here, there⟩ := entryTexts_cons plain isText made
    have opens := opens_value plain simpleHere here
    cases fuel with
    | zero => contradiction
    | succ fuel =>
      by_cases alone : more = []
      · subst alone
        cases there
        rw [join_single] at enough wide ⊢
        simp only [List.length_append] at enough wide
        rw [List.append_assoc, List.append_assoc]
        refine members_last (opens.head _) fun pos => ?_
        exact value_written plain around (level + 1) x simpleHere keyedHere here (by omega)
          (by omega) pos (stops_closing (.inr rfl))
      · obtain ⟨several, after, shape⟩ :=
          quote_entries plain alone simpleThere there (separator style (level + 1))
        have begins : ∀ c ∈ (Text.join (separator style (level + 1)) others
            ++ closing style level '\x7d' rest).head?, At.isSpace c = false := by
          rw [shape]
          intro c head
          cases head
          rfl
        rw [join_cons _ _ several] at enough wide ⊢
        have apart := separator_length style (level + 1)
        simp only [List.length_append] at enough wide
        rw [List.append_assoc, List.append_assoc, List.append_assoc, List.append_assoc]
        refine members_more (opens.head _) (fun pos => ?_) begins fun pos => ?_
        · exact value_written plain around (level + 1) x simpleHere keyedHere here (by omega)
            (by omega) pos (stops_separator style (level + 1) _)
        · exact members_written plain around level more alone simpleThere keyedThere there
            (by omega) (by omega) pos rest

end

/-- Reading undoes writing. -/
theorem read_print {style : Style} (plain : style.ascii = false) {v : Value}
    (simple : v.isSimple = true) (keyed : v.isKeyed = true) {t : Text}
    (written : print style v = .ok t) : read t = .ok v := by
  have opens := opens_value plain simple written
  have start : At.skipSpace ⟨0, t⟩ = ⟨0, t⟩ := by
    have visible := opens.head []
    rw [List.append_nil] at visible
    have nothing : ∀ c ∈ ([] : Text), At.isSpace c = true := List.forall_mem_nil _
    exact skipSpace_blanks 0 nothing visible
  have whole : Leaves (value (2 * t.length + 2) t.length ⟨0, t ++ []⟩) v [] :=
    value_written plain [] 0 v simple keyed written (by omega) le_rfl 0 fun c head => by cases head
  obtain ⟨pos, found⟩ := whole
  rw [List.append_nil] at found
  have noMark : (t.head? == some (CodePoint.ofChar '\ufeff')) = false := by
    obtain ⟨c, more, rfl, -, -, other⟩ := opens
    simpa using other
  rw [read, readWithin, noMark, start]
  simp only [found, bind, Except.bind, Bool.false_eq_true, if_false]
  rfl

end ExposureLint.Json
