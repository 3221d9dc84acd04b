import Mathlib
import ExposureLint.Proofs.Drawing

/-!
Escaped texts as they are read again. A text is cut into pieces: its tags, the backslashes in front
of them, and what is between. Escaped it is read as just these pieces, all of them plain, except
that one backslash at its end comes out twice. In a piece that is shown, a backslash in front of a
bracket is lost.
-/
namespace ExposureLint.Markup

/-! ### Tags -/

structure IsInside (inside : Text) : Prop where
  start : inside.head?.any isTagStart = true
  plain : ∀ c ∈ inside, isOpening c = false ∧ isClosing c = false

def bracketed (inside : Text) : Text := "[" ++ inside ++ "]"

variable {t inside rest : Text} {c : CodePoint} {count : Nat}

theorem not_bracket_of_isTagStart (start : isTagStart c = true) :
    isOpening c = false ∧ isClosing c = false := by
  refine ⟨beq_eq_false_iff_ne.mpr ?_, beq_eq_false_iff_ne.mpr ?_⟩
  all_goals
    rintro rfl
    exact absurd start (by decide)

theorem bracketed_append (inside rest : Text) : bracketed inside ++ rest
    = CodePoint.ofChar '[' :: (inside ++ CodePoint.ofChar ']' :: rest) := by
  simp [bracketed, Text.ofString]

/-- A code point that may stand inside a tag, behind its start. -/
def isInner (c : CodePoint) : Bool := !isOpening c && !isClosing c

theorem isInner_iff : isInner c = true ↔ isOpening c = false ∧ isClosing c = false := by
  simp [isInner]

/-- The tag behind an opening bracket reaches up to the next bracket, which must close it. -/
theorem tagAt?_opening (first : CodePoint) (rest : Text) :
    tagAt? (CodePoint.ofChar '[' :: first :: rest)
      = if isTagStart first then
          if (rest.drop (rest.takeWhile isInner).length).head?.any isClosing then
            some (first :: rest.takeWhile isInner)
          else none
        else none := rfl

theorem tagAt?_bracketed (isInside : IsInside inside) (rest : Text) :
    tagAt? (bracketed inside ++ rest) = some inside := by
  obtain ⟨start, plain⟩ := isInside
  rw [bracketed_append]
  cases inside with
  | nil => cases start
  | cons first more =>
    have inner : ∀ c ∈ more, isInner c = true := fun c there =>
      isInner_iff.mpr (plain c (List.mem_cons_of_mem first there))
    have taken : (more ++ CodePoint.ofChar ']' :: rest).takeWhile isInner = more := by
      rw [List.takeWhile_append_of_pos inner, List.takeWhile_cons_of_neg (by decide),
        List.append_nil]
    rw [List.cons_append, tagAt?_opening, taken, List.drop_left, if_pos (by simpa using start)]
    rfl

theorem exists_of_tagAt? (tag : tagAt? t = some inside) :
    IsInside inside ∧ ∃ rest, t = bracketed inside ++ rest := by
  have shape : ∃ first more, t = CodePoint.ofChar '[' :: first :: more := by
    unfold tagAt? at tag
    split at tag
    · rename_i bracket first more
      split at tag
      · rename_i begins
        obtain rfl : bracket = CodePoint.ofChar '[' :=
          beq_iff_eq.mp (Bool.and_eq_true_iff.mp begins).1
        exact ⟨first, more, rfl⟩
      · cases tag
    · cases tag
  obtain ⟨first, more, rfl⟩ := shape
  rw [tagAt?_opening] at tag
  split at tag
  · rename_i start
    split at tag
    · rename_i ended
      obtain rfl := Option.some.inj tag
      refine ⟨⟨by simpa using start, List.forall_mem_cons.mpr
        ⟨not_bracket_of_isTagStart start, fun c there => ?_⟩⟩, ?_⟩
      · exact isInner_iff.mp (List.mem_takeWhile_imp there)
      · obtain ⟨c, next, closing⟩ := (Option.any_eq_true _ _).mp ended
        obtain rfl : c = CodePoint.ofChar ']' := beq_iff_eq.mp closing
        obtain ⟨rest, behind⟩ := List.head?_eq_some_iff.mp next
        refine ⟨rest, ?_⟩
        rw [bracketed_append, List.cons_append, ← behind,
          List.prefix_iff_eq_append.mp (List.takeWhile_prefix isInner)]
    · cases tag
  · cases tag

theorem escapedTagAt?_backslash (rest : Text) : escapedTagAt? (CodePoint.ofChar '\\' :: rest)
    = (escapedTagAt? rest).map fun found => (found.1 + 1, found.2) := by
  simp only [escapedTagAt?]
  rw [List.takeWhile_cons_of_pos (by decide), List.length_cons, List.drop_succ_cons, Option.map_map]
  rfl

theorem escapedTagAt?_other (other : isBackslash c = false) (rest : Text) :
    escapedTagAt? (c :: rest) = (tagAt? (c :: rest)).map fun inside => (0, inside) := by
  simp only [escapedTagAt?]
  rw [List.takeWhile_cons_of_neg (by simp [other])]
  rfl

theorem backslashes_succ (n : Nat) :
    backslashes (n + 1) = CodePoint.ofChar '\\' :: backslashes n := List.replicate_succ

theorem escapedTagAt?_bracketed (isInside : IsInside inside) (count : Nat) (rest : Text) :
    escapedTagAt? (backslashes count ++ (bracketed inside ++ rest)) = some (count, inside) := by
  induction count with
  | zero =>
    have tag := tagAt?_bracketed isInside rest
    rw [bracketed_append] at tag ⊢
    rw [backslashes, List.replicate_zero, List.nil_append, escapedTagAt?_other (by decide), tag]
    rfl
  | succ n ih =>
    rw [backslashes_succ, List.cons_append, escapedTagAt?_backslash, ih]
    rfl

theorem exists_of_escapedTagAt? (tag : escapedTagAt? t = some (count, inside)) :
    IsInside inside ∧ ∃ rest, t = backslashes count ++ (bracketed inside ++ rest) := by
  induction t generalizing count with
  | nil => cases tag
  | cons c rest ih =>
    cases backslash : isBackslash c with
    | true =>
      obtain rfl : c = CodePoint.ofChar '\\' := beq_iff_eq.mp backslash
      rw [escapedTagAt?_backslash] at tag
      obtain ⟨⟨n, found⟩, later, same⟩ := Option.map_eq_some_iff.mp tag
      cases same
      obtain ⟨isInside, more, rfl⟩ := ih later
      exact ⟨isInside, more, by rw [backslashes_succ, List.cons_append]⟩
    | false =>
      rw [escapedTagAt?_other backslash] at tag
      obtain ⟨found, here, same⟩ := Option.map_eq_some_iff.mp tag
      cases same
      exact exists_of_tagAt? here

/-! ### Pieces -/

/-- A piece that is there, given in reverse. -/
def pieceOf (reversed : Text) : List Text :=
  if reversed.isEmpty then [] else [reversed.reverse]

/-- `skip` counts the code points that a tag has taken already, and `before` is the text since the
last tag, in reverse. -/
def piecesFrom (skip : Nat) (before : Text) : Text → List Text
  | [] => pieceOf before
  | c :: rest =>
    match skip with
    | skip + 1 => piecesFrom skip before rest
    | 0 =>
      match escapedTagAt? (c :: rest) with
      | some (count, inside) =>
        pieceOf before ++ pieceOf (backslashes count) ++ [bracketed inside]
          ++ piecesFrom (count + inside.length + 1) [] rest
      | none => piecesFrom 0 (c :: before) rest

/-- The tags of a text, the backslashes in front of each of them, and what is between. -/
def pieces (t : Text) : List Text := piecesFrom 0 [] t

theorem flatten_pieceOf (reversed : Text) : (pieceOf reversed).flatten = reversed.reverse := by
  unfold pieceOf
  split
  · rename_i empty
    rw [List.isEmpty_iff.mp empty]
    rfl
  · exact List.flatten_singleton

theorem escapeFrom_drop (skip : Nat) (t : Text) :
    escapeFrom skip t = escapeFrom 0 (t.drop skip) := by
  induction t generalizing skip with
  | nil => cases skip <;> rfl
  | cons c rest ih =>
    cases skip with
    | zero => rfl
    | succ skip => exact ih skip

theorem partsFrom_drop (pos skip : Nat) (before t : Text) :
    partsFrom pos skip before t = partsFrom (pos + skip) 0 before (t.drop skip) := by
  induction t generalizing pos skip with
  | nil => cases skip <;> rfl
  | cons c rest ih =>
    cases skip with
    | zero => rfl
    | succ skip =>
      rw [partsFrom, ih, List.drop_succ_cons, Nat.add_assoc, Nat.add_comm 1]

theorem piecesFrom_drop (skip : Nat) (before t : Text) :
    piecesFrom skip before t = piecesFrom 0 before (t.drop skip) := by
  induction t generalizing skip with
  | nil => cases skip <;> rfl
  | cons c rest ih =>
    cases skip with
    | zero => rfl
    | succ skip => exact ih skip

section
variable (isInside : IsInside inside)
include isInside

theorem cons_of_tag (count : Nat) (rest : Text) :
    ∃ c more, backslashes count ++ (bracketed inside ++ rest) = c :: more
      ∧ more.drop (count + inside.length + 1) = rest
      ∧ escapedTagAt? (c :: more) = some (count, inside) := by
  have tag := escapedTagAt?_bracketed isInside count rest
  cases shape : backslashes count ++ (bracketed inside ++ rest) with
  | nil =>
    rw [shape] at tag
    cases tag
  | cons c more =>
    rw [shape] at tag
    refine ⟨c, more, rfl, ?_, tag⟩
    have size : (backslashes count ++ bracketed inside).length = count + inside.length + 2 := by
      simp [backslashes, bracketed, Text.ofString]
      omega
    have whole := congrArg (List.drop (count + inside.length + 2)) shape
    rw [← List.append_assoc, ← size, List.drop_left, size] at whole
    exact whole.symm

theorem escapeFrom_tag (count : Nat) (rest : Text) :
    escapeFrom 0 (backslashes count ++ (bracketed inside ++ rest))
      = backslashes (2 * count + 1) ++ (bracketed inside ++ escapeFrom 0 rest) := by
  obtain ⟨c, more, shape, rest', tag⟩ := cons_of_tag isInside count rest
  rw [shape]
  simp only [escapeFrom, tag]
  rw [escapeFrom_drop, rest']
  simp [bracketed]

theorem partsFrom_tag (pos : Nat) (before : Text) (count : Nat) (rest : Text) :
    ∃ pos', partsFrom pos 0 before (backslashes count ++ (bracketed inside ++ rest))
      = plainParts before ++ partsOf pos count inside ++ partsFrom pos' 0 [] rest := by
  obtain ⟨c, more, shape, rest', tag⟩ := cons_of_tag isInside count rest
  refine ⟨pos + 1 + (count + inside.length + 1), ?_⟩
  rw [shape]
  simp only [partsFrom, tag]
  rw [partsFrom_drop, rest']

theorem piecesFrom_tag (before : Text) (count : Nat) (rest : Text) :
    piecesFrom 0 before (backslashes count ++ (bracketed inside ++ rest))
      = pieceOf before ++ pieceOf (backslashes count) ++ [bracketed inside]
        ++ piecesFrom 0 [] rest := by
  obtain ⟨c, more, shape, rest', tag⟩ := cons_of_tag isInside count rest
  rw [shape]
  simp only [piecesFrom, tag]
  rw [piecesFrom_drop, rest']

end

section
variable (noTag : escapedTagAt? (c :: rest) = none)
include noTag

theorem escapeFrom_cons : escapeFrom 0 (c :: rest) = c :: escapeFrom 0 rest := by
  simp only [escapeFrom, noTag]

theorem partsFrom_cons (pos : Nat) (before : Text) :
    partsFrom pos 0 before (c :: rest) = partsFrom (pos + 1) 0 (c :: before) rest := by
  simp only [partsFrom, noTag]

theorem piecesFrom_cons (before : Text) :
    piecesFrom 0 before (c :: rest) = piecesFrom 0 (c :: before) rest := by
  simp only [piecesFrom, noTag]

end

/-- Texts are made of tags with the backslashes in front of them, and of code points at which none
of these begins. -/
theorem tag_induction {motive : Text → Prop} (nil : motive [])
    (tag : ∀ count inside rest, IsInside inside → motive rest →
      motive (backslashes count ++ (bracketed inside ++ rest)))
    (cons : ∀ c rest, escapedTagAt? (c :: rest) = none → motive rest → motive (c :: rest))
    (t : Text) : motive t := by
  induction size : t.length using Nat.strong_induction_on generalizing t with
  | _ size ih =>
    cases t with
    | nil => exact nil
    | cons c rest =>
      cases found : escapedTagAt? (c :: rest) with
      | none => exact cons c rest found (ih _ (by simp [← size]) rest rfl)
      | some tagged =>
        obtain ⟨count, inside⟩ := tagged
        obtain ⟨isInside, more, shape⟩ := exists_of_escapedTagAt? found
        rw [shape] at size ⊢
        refine tag count inside more isInside (ih _ ?_ more rfl)
        rw [← size]
        simp [bracketed, Text.ofString]
        omega

/-! ### Where there is no tag, none comes in -/

theorem mem_backslashes {n : Nat} (there : c ∈ backslashes n) : c = CodePoint.ofChar '\\' :=
  List.eq_of_mem_replicate there

/-- Up to a closing bracket that no other bracket is in front of, nothing is escaped. -/
theorem exists_of_escapeFrom_closing {x more : Text} {n : Nat} (inner : ∀ c ∈ x, isInner c = true)
    (escaped : escapeFrom 0 t ++ backslashes n = x ++ CodePoint.ofChar ']' :: more) :
    ∃ rest, t = x ++ CodePoint.ofChar ']' :: rest := by
  induction t using tag_induction generalizing x with
  | nil =>
    have there : CodePoint.ofChar ']' ∈ escapeFrom 0 [] ++ backslashes n := by
      rw [escaped]
      exact List.mem_append_right x List.mem_cons_self
    exact absurd (mem_backslashes there) (by decide)
  | tag count inside rest isInside ih =>
    -- the first bracket that is not in `x` is a closing one on one side and an opening one here
    have outer (y : Text) (m : Nat) : (backslashes m ++ CodePoint.ofChar '[' :: y).dropWhile isInner
        = CodePoint.ofChar '[' :: y := by
      rw [List.dropWhile_append_of_pos, List.dropWhile_cons_of_neg (by decide)]
      intro c there
      rw [mem_backslashes there]
      rfl
    have sides := congrArg (List.dropWhile isInner) escaped
    rw [escapeFrom_tag isInside, bracketed_append, List.append_assoc, List.cons_append, outer,
      List.dropWhile_append_of_pos inner, List.dropWhile_cons_of_neg (by decide)] at sides
    exact absurd (List.cons.inj sides).1 (by decide)
  | cons c rest noTag ih =>
    rw [escapeFrom_cons noTag] at escaped
    cases x with
    | nil =>
      obtain ⟨rfl, -⟩ := List.cons.inj escaped
      exact ⟨rest, rfl⟩
    | cons d x =>
      obtain ⟨rfl, later⟩ := List.cons.inj escaped
      obtain ⟨more, rfl⟩ := ih (List.forall_mem_cons.mp inner).2 later
      exact ⟨more, rfl⟩

theorem escapedTagAt?_escapeFrom (noTag : escapedTagAt? t = none) (n : Nat) :
    escapedTagAt? (escapeFrom 0 t ++ backslashes n) = none := by
  induction t with
  | nil =>
    refine escapedTagAt?_eq_none fun c there => ?_
    rw [mem_backslashes there]
    rfl
  | cons c rest ih =>
    rw [escapeFrom_cons noTag, List.cons_append]
    cases backslash : isBackslash c with
    | true =>
      obtain rfl : c = CodePoint.ofChar '\\' := beq_iff_eq.mp backslash
      rw [escapedTagAt?_backslash, Option.map_eq_none_iff] at noTag ⊢
      exact ih noTag
    | false =>
      rw [escapedTagAt?_other backslash, Option.map_eq_none_iff] at noTag ⊢
      by_contra some
      obtain ⟨inside, tag⟩ := Option.ne_none_iff_exists'.mp some
      obtain ⟨isInside, more, shape⟩ := exists_of_tagAt? tag
      rw [bracketed_append] at shape
      obtain ⟨rfl, closing⟩ := List.cons.inj shape
      obtain ⟨rest, rfl⟩ := exists_of_escapeFrom_closing
        (fun c there => isInner_iff.mpr (isInside.plain c there)) closing
      rw [← bracketed_append, tagAt?_bracketed isInside] at noTag
      cases noTag

theorem escapedTagAt?_append (noTag : escapedTagAt? t = none) (n : Nat) :
    escapedTagAt? (t ++ backslashes n) = none := by
  by_contra some
  obtain ⟨⟨count, inside⟩, tag⟩ := Option.ne_none_iff_exists'.mp some
  obtain ⟨isInside, more, shape⟩ := exists_of_escapedTagAt? tag
  have whole (rest : Text) : t ≠ backslashes count ++ (bracketed inside ++ rest) := by
    rintro rfl
    cases noTag.symm.trans (escapedTagAt?_bracketed isInside count rest)
  rw [← List.append_assoc] at shape
  obtain ⟨cut, split, within⟩ | ⟨rest, split, -⟩ := List.append_eq_append_iff.mp shape
  · -- the closing bracket of the tag is no backslash, so all of the tag is in the text
    cases cut using List.reverseRecOn with
    | nil => exact whole [] (by simpa using split.symm)
    | append_singleton cut last =>
      have ends : (backslashes count ++ (Text.ofString "[" ++ inside)) ++ [CodePoint.ofChar ']']
          = (t ++ cut) ++ [last] := by
        simpa [bracketed, Text.ofString] using split
      obtain rfl := List.singleton_inj.mp (List.append_inj' ends rfl).2
      have there : CodePoint.ofChar ']' ∈ backslashes n := by simp [within]
      exact absurd (mem_backslashes there) (by decide)
  · exact whole rest (by rw [split, List.append_assoc])

/-! ### Reading what is escaped -/

theorem plainParts_eq (reversed : Text) : plainParts reversed = (pieceOf reversed).map .plain := by
  unfold plainParts pieceOf
  split <;> rfl

theorem piecesFrom_of_closed (closed : ∀ c ∈ t, isOpening c = false) (before : Text) :
    piecesFrom 0 before t = pieceOf (t.reverse ++ before) := by
  induction t generalizing before with
  | nil => rfl
  | cons c rest ih =>
    rw [piecesFrom_cons (escapedTagAt?_eq_none closed), ih (List.forall_mem_cons.mp closed).2]
    simp

theorem partsOf_odd (pos count : Nat) (inside : Text) : partsOf pos (2 * count + 1) inside
    = (pieceOf (backslashes count) ++ [bracketed inside]).map .plain := by
  have half : (2 * count + 1) / 2 = count := by omega
  have odd : (2 * count + 1) % 2 = 1 := by omega
  rw [partsOf, half, odd]
  cases count with
  | zero => rfl
  | succ n => simp [pieceOf, backslashes, bracketed]

/-- An escaped text is read as the pieces of the text, and none of them is a tag. -/
theorem partsFrom_escapeFrom (pos : Nat) (before t : Text) (n : Nat) :
    partsFrom pos 0 before (escapeFrom 0 t ++ backslashes n)
      = (piecesFrom 0 before (t ++ backslashes n)).map .plain := by
  induction t using tag_induction generalizing pos before with
  | nil =>
    have closed : ∀ c ∈ backslashes n, isOpening c = false := fun c there => by
      rw [mem_backslashes there]
      rfl
    rw [escapeFrom, List.nil_append, partsFrom_eq closed, piecesFrom_of_closed closed, plainParts_eq]
  | tag count inside rest isInside ih =>
    rw [escapeFrom_tag isInside, List.append_assoc, List.append_assoc, List.append_assoc,
      List.append_assoc, piecesFrom_tag isInside]
    obtain ⟨pos', read⟩ := partsFrom_tag isInside pos before (2 * count + 1)
      (escapeFrom 0 rest ++ backslashes n)
    rw [read, partsOf_odd, plainParts_eq, ih]
    simp
  | cons c rest noTag ih =>
    have escaped := escapedTagAt?_escapeFrom noTag n
    have unescaped := escapedTagAt?_append noTag n
    rw [List.cons_append] at unescaped
    rw [escapeFrom_cons noTag, List.cons_append] at escaped ⊢
    rw [partsFrom_cons escaped, ih, List.cons_append, piecesFrom_cons unescaped]

theorem flatten_piecesFrom (before t : Text) :
    (piecesFrom 0 before t).flatten = before.reverse ++ t := by
  induction t using tag_induction generalizing before with
  | nil => simp [piecesFrom, flatten_pieceOf]
  | tag count inside rest isInside ih =>
    rw [piecesFrom_tag isInside, List.flatten_append, List.flatten_append, List.flatten_append,
      flatten_pieceOf, flatten_pieceOf, ih]
    simp [backslashes]
  | cons c rest noTag ih =>
    rw [piecesFrom_cons noTag, ih]
    simp

theorem flatten_pieces (t : Text) : (pieces t).flatten = t := flatten_piecesFrom [] t

/-! ### Backslashes at the end -/

def trailing (t : Text) : Nat := (t.reverse.takeWhile isBackslash).length

def EndsOtherwise (t : Text) : Prop := ∀ c ∈ t.getLast?, isBackslash c = false

theorem exists_trailing (t : Text) : ∃ z n, t = z ++ backslashes n ∧ EndsOtherwise z := by
  induction t using List.reverseRecOn with
  | nil => exact ⟨[], 0, rfl, fun c none => by cases none⟩
  | append_singleton t c ih =>
    cases backslash : isBackslash c with
    | true =>
      obtain rfl : c = CodePoint.ofChar '\\' := beq_iff_eq.mp backslash
      obtain ⟨z, n, rfl, other⟩ := ih
      exact ⟨z, n + 1, by simp [backslashes, List.replicate_succ'], other⟩
    | false =>
      refine ⟨t ++ [c], 0, by simp [backslashes], fun d last => ?_⟩
      obtain rfl : c = d := by simpa using last
      exact backslash

theorem trailing_append {z : Text} (other : EndsOtherwise z) (n : Nat) :
    trailing (z ++ backslashes n) = n := by
  have all : ∀ c ∈ (backslashes n).reverse, isBackslash c = true := fun c there => by
    rw [mem_backslashes (List.mem_reverse.mp there)]
    rfl
  have none : z.reverse.takeWhile isBackslash = [] := by
    cases shape : z.reverse with
    | nil => rfl
    | cons c rest =>
      refine List.takeWhile_cons_of_neg ?_
      rw [other c (by rw [← List.head?_reverse, shape]; rfl)]
      exact Bool.false_ne_true
  rw [trailing, List.reverse_append, List.takeWhile_append_of_pos all, none]
  simp [backslashes]

theorem escapeFrom_append (z : Text) (n : Nat) :
    escapeFrom 0 (z ++ backslashes n) = escapeFrom 0 z ++ backslashes n := by
  induction z using tag_induction with
  | nil =>
    rw [List.nil_append]
    induction n with
    | zero => rfl
    | succ n ih =>
      have closed : ∀ c ∈ backslashes (n + 1), isOpening c = false := fun c there => by
        rw [mem_backslashes there]
        rfl
      have noTag := escapedTagAt?_eq_none closed
      rw [backslashes_succ] at noTag ⊢
      rw [escapeFrom_cons noTag, ih]
      rfl
  | tag count inside rest isInside ih =>
    rw [List.append_assoc, List.append_assoc, escapeFrom_tag isInside, escapeFrom_tag isInside, ih]
    simp
  | cons c rest noTag ih =>
    have unescaped := escapedTagAt?_append noTag n
    rw [List.cons_append] at unescaped
    rw [List.cons_append, escapeFrom_cons unescaped, escapeFrom_cons noTag, ih, List.cons_append]

theorem isBackslash_last_escapeFrom (t : Text) (d : CodePoint) :
    isBackslash ((escapeFrom 0 t).getLast?.getD d) = isBackslash (t.getLast?.getD d) := by
  induction t using tag_induction generalizing d with
  | nil => rfl
  | tag count inside rest isInside ih =>
    have last (x y : Text) : (x ++ (bracketed inside ++ y)).getLast?.getD d
        = y.getLast?.getD (CodePoint.ofChar ']') := by
      have shape : x ++ (bracketed inside ++ y)
          = (x ++ CodePoint.ofChar '[' :: inside) ++ CodePoint.ofChar ']' :: y := by
        rw [bracketed_append]
        simp
      rw [shape, List.getLast?_append, List.getLast?_cons]
      rfl
    rw [escapeFrom_tag isInside, last, last, ih]
  | cons c rest noTag ih =>
    rw [escapeFrom_cons noTag, List.getLast?_cons, List.getLast?_cons, Option.getD_some,
      Option.getD_some, ih]

theorem endsOtherwise_iff : EndsOtherwise t
    ↔ isBackslash (t.getLast?.getD (CodePoint.ofChar '[')) = false := by
  unfold EndsOtherwise
  cases t.getLast? with
  | none => simpa using by decide
  | some c => simp

theorem trailing_escapeFrom (t : Text) : trailing (escapeFrom 0 t) = trailing t := by
  obtain ⟨z, n, rfl, other⟩ := exists_trailing t
  have escaped : EndsOtherwise (escapeFrom 0 z) := by
    rw [endsOtherwise_iff] at other ⊢
    rw [isBackslash_last_escapeFrom, other]
  rw [escapeFrom_append, trailing_append other, trailing_append escaped]

def doubled (t : Text) : Text := t ++ backslashes (if trailing t = 1 then 1 else 0)

theorem escape_eq (t : Text) :
    escape t = escapeFrom 0 t ++ backslashes (if trailing t = 1 then 1 else 0) := by
  have unfolded : escape t = if trailing (escapeFrom 0 t) == 1
      then escapeFrom 0 t ++ backslashes 1 else escapeFrom 0 t := rfl
  rw [unfolded, trailing_escapeFrom]
  by_cases one : trailing t = 1
  · simp [one]
  · simp [one, backslashes]

/-- An escaped text is read as the pieces of the text, of which a single backslash at the end is
doubled, and no tag is read. -/
theorem parts_escape (t : Text) : parts (escape t) = (pieces (doubled t)).map .plain := by
  rw [parts, escape_eq, partsFrom_escapeFrom]
  rfl

theorem shownParts_escape (t : Text) :
    shownParts (escape t) = (pieces (doubled t)).flatMap shown := by
  rw [shownParts, parts_escape, List.flatMap_map]

/-! ### Backslashes in front of brackets -/

def hidden : Text := "\\["

theorem hidden_infix_cons {d : CodePoint} : hidden <:+: c :: d :: rest
    ↔ (isBackslash c = true ∧ isOpening d = true) ∨ hidden <:+: d :: rest := by
  rw [List.infix_cons_iff, show hidden = [CodePoint.ofChar '\\', CodePoint.ofChar '['] from rfl,
    List.cons_prefix_cons, List.cons_prefix_cons, and_iff_left (List.nil_prefix), isBackslash,
    isOpening, beq_iff_eq, beq_iff_eq, eq_comm, eq_comm (a := CodePoint.ofChar '[')]

theorem unescapeBrackets_eq_self (bare : ¬ hidden <:+: t) : unescapeBrackets t = t := by
  induction t using unescapeBrackets.induct with
  | case1 => rfl
  | case2 c => rfl
  | case3 c d rest escaped ih =>
    exact absurd (hidden_infix_cons.mpr (.inl (Bool.and_eq_true_iff.mp escaped))) bare
  | case4 c d rest other ih =>
    rw [unescapeBrackets, if_neg other, ih fun later => bare (hidden_infix_cons.mpr (.inr later))]

theorem unescapeBrackets_sublist (t : Text) : (unescapeBrackets t).Sublist t := by
  induction t using unescapeBrackets.induct with
  | case1 => exact List.Sublist.refl _
  | case2 c => exact List.Sublist.refl _
  | case3 c d rest escaped ih =>
    rw [unescapeBrackets, if_pos escaped]
    exact ih.cons c
  | case4 c d rest other ih =>
    rw [unescapeBrackets, if_neg other]
    exact ih.cons_cons c

section
variable {p : CodePoint → Bool}

/-- Nothing but backslashes is lost. -/
theorem filter_unescapeBrackets (blind : p (CodePoint.ofChar '\\') = false) (t : Text) :
    (unescapeBrackets t).filter p = t.filter p := by
  induction t using unescapeBrackets.induct with
  | case1 => rfl
  | case2 c => rfl
  | case3 c d rest escaped ih =>
    obtain rfl : c = CodePoint.ofChar '\\' := beq_iff_eq.mp (Bool.and_eq_true_iff.mp escaped).1
    rw [unescapeBrackets, if_pos escaped, ih]
    exact (List.filter_cons_of_neg (by simp [blind])).symm
  | case4 c d rest other ih =>
    rw [unescapeBrackets, if_neg other, List.filter_cons, List.filter_cons (x := c), ih]

theorem bare_of_countP_unescapeBrackets (sees : p (CodePoint.ofChar '\\') = true)
    (same : (unescapeBrackets t).countP p = t.countP p) : ¬ hidden <:+: t := by
  induction t using unescapeBrackets.induct with
  | case1 => exact fun there => by simp [hidden, Text.ofString] at there
  | case2 c => exact fun there => by simpa [hidden, Text.ofString] using there.length_le
  | case3 c d rest escaped ih =>
    obtain rfl : c = CodePoint.ofChar '\\' := beq_iff_eq.mp (Bool.and_eq_true_iff.mp escaped).1
    have less := (unescapeBrackets_sublist (d :: rest)).countP_le (p := p)
    rw [unescapeBrackets, if_pos escaped, List.countP_cons_of_pos sees] at same
    omega
  | case4 c d rest other ih =>
    rw [unescapeBrackets, if_neg other, List.countP_cons, List.countP_cons (a := c)] at same
    rw [hidden_infix_cons, not_or]
    exact ⟨fun escaped => other (Bool.and_eq_true_iff.mpr escaped), ih (by omega)⟩

end

/-- Backslashes at the end stay. -/
theorem unescapeBrackets_append (t : Text) (n : Nat) :
    unescapeBrackets (t ++ backslashes n) = unescapeBrackets t ++ backslashes n := by
  induction t using unescapeBrackets.induct with
  | case1 =>
    refine unescapeBrackets_eq fun c there => ?_
    rw [mem_backslashes there]
    rfl
  | case2 c =>
    cases n with
    | zero => rfl
    | succ n =>
      have tail : unescapeBrackets (backslashes (n + 1)) = backslashes (n + 1) := by
        refine unescapeBrackets_eq fun c there => ?_
        rw [mem_backslashes there]
        rfl
      have noBracket : isOpening (CodePoint.ofChar '\\') = false := rfl
      rw [backslashes_succ] at tail ⊢
      rw [show unescapeBrackets [c] = [c] from rfl, List.singleton_append, unescapeBrackets,
        if_neg (by simp [noBracket]), tail]
  | case3 c d rest escaped ih =>
    rw [List.cons_append, List.cons_append, unescapeBrackets, if_pos escaped, unescapeBrackets,
      if_pos escaped, ← List.cons_append, ih]
  | case4 c d rest other ih =>
    rw [List.cons_append, List.cons_append, unescapeBrackets, if_neg other, unescapeBrackets,
      if_neg other, ← List.cons_append, ih, List.cons_append]

/-- So do they at the end of several pieces. By induction on the pieces from the last one on, which
may be backslashes throughout. -/
theorem flatMap_unescapeBrackets {ps : List Text} {z : Text} {n : Nat}
    (whole : ps.flatten = z ++ backslashes n) :
    ∃ w, ps.flatMap unescapeBrackets = w ++ backslashes n := by
  induction ps using List.reverseRecOn generalizing n with
  | nil => exact ⟨[], (List.append_eq_nil_iff.mp whole.symm).2.symm⟩
  | append_singleton ps last ih =>
    rw [List.flatten_concat] at whole
    rw [List.flatMap_append, List.flatMap_singleton]
    obtain ⟨more, rfl, split⟩ | ⟨more, split, ends⟩ := List.append_eq_append_iff.mp whole
    · exact ⟨ps.flatMap unescapeBrackets ++ unescapeBrackets more, by
        rw [split, unescapeBrackets_append, List.append_assoc]⟩
    · obtain ⟨size, before, behind⟩ := List.replicate_eq_append_iff.mp ends
      rw [before] at split
      obtain ⟨w, read⟩ := ih split
      have closed : ∀ c ∈ last, isOpening c = false := fun c there => by
        rw [behind] at there
        rw [mem_backslashes there]
        rfl
      refine ⟨w, ?_⟩
      rw [read, unescapeBrackets_eq closed, ends, List.append_assoc]
      exact congrArg (fun more => w ++ (more ++ last)) before.symm

end ExposureLint.Markup
