import Mathlib
import ExposureLint.Proofs.Tellable
import ExposureLint.Console.Presentation

/-!
What becomes of tabs. A text is cut into its lines, and each of them behind its tabs; blanks up to
the next column take the place of a tab, and nothing else changes. So a text without tabs stays as
it is, and any text keeps all that is neither a tab nor a blank.
-/
namespace ExposureLint

namespace Text
variable {p : CodePoint → Bool} {t : Text}

theorem pieces_append_cons {s rest : Text} {c : CodePoint} (free : ∀ d ∈ s, p d = false)
    (isSeparator : p c = true) : pieces p (s ++ c :: rest) = s :: pieces p rest := by
  induction s with
  | nil => simp [pieces, isSeparator]
  | cons d more ih =>
    obtain ⟨here, there⟩ := List.forall_mem_cons.mp free
    rw [List.cons_append, pieces, here, ih there]
    rfl

theorem mem_pieces : ∀ piece ∈ pieces p t, ∀ c ∈ piece, p c = false ∧ c ∈ t := by
  induction t with
  | nil => simp [pieces]
  | cons d rest ih =>
    have later : ∀ piece ∈ pieces p rest, ∀ c ∈ piece, p c = false ∧ c ∈ d :: rest := by
      intro piece there c inside
      obtain ⟨other, among⟩ := ih piece there c inside
      exact ⟨other, List.mem_cons_of_mem d among⟩
    rw [pieces]
    split
    · exact List.forall_mem_cons.mpr ⟨List.forall_mem_nil _, later⟩
    · rename_i other
      have here : p d = false ∧ d ∈ d :: rest := ⟨by simpa using other, List.mem_cons_self⟩
      cases split : pieces p rest with
      | nil =>
        exact List.forall_mem_singleton.mpr (List.forall_mem_singleton.mpr here)
      | cons first more =>
        rw [split] at later
        obtain ⟨inFirst, inMore⟩ := List.forall_mem_cons.mp later
        exact List.forall_mem_cons.mpr ⟨List.forall_mem_cons.mpr ⟨here, inFirst⟩, inMore⟩

theorem pieces_of_free (free : ∀ c ∈ t, p c = false) : pieces p t = [t] := by
  induction t with
  | nil => rfl
  | cons c rest ih =>
    obtain ⟨here, there⟩ := List.forall_mem_cons.mp free
    rw [pieces, here, ih there]
    rfl

theorem lines_ne_nil (t : Text) : lines t ≠ [] := by
  cases t with
  | nil => exact List.cons_ne_nil _ _
  | cons c rest =>
    rw [lines, pieces]
    split
    · exact List.cons_ne_nil _ _
    · split <;> exact List.cons_ne_nil _ _

theorem join_lines (t : Text) : join "\n" (lines t) = t := by
  induction t with
  | nil => rfl
  | cons c rest ih =>
    obtain ⟨first, more, split⟩ := List.exists_cons_of_ne_nil (lines_ne_nil rest)
    rw [split] at ih
    rw [lines] at split ⊢
    rw [pieces, split]
    cases feed : c == CodePoint.ofChar '\n' with
    | true =>
      rw [beq_iff_eq] at feed
      subst feed
      rw [if_pos rfl, join, List.intercalate_cons_cons, ← join, ih]
      rfl
    | false =>
      cases more with
      | nil => simpa [join] using ih
      | cons next more => simpa [join, List.intercalate_cons_cons] using ih

theorem filter_join (ls : List Text) (blind : p (CodePoint.ofChar '\n') = false) :
    (join "\n" ls).filter p = ls.flatMap (List.filter p) := by
  have separator : (ofString "\n").filter p = [] := by
    simp [ofString, blind]
  induction ls with
  | nil => rfl
  | cons l rest ih =>
    cases rest with
    | nil => simp [join]
    | cons next more =>
      rw [join, List.intercalate_cons_cons, List.filter_append, List.filter_append, separator,
        ← join, ih, List.append_nil, ← List.flatMap_cons]

end Text

namespace Styled
variable {p : CodePoint → Bool} {s : Styled} {done cur rest : Text}

theorem clip_text (whole : s.text = done ++ cur ++ rest) :
    (s.clip done.length (done ++ cur).length).text = cur := by
  rw [clip, whole]
  simp only [List.take_left, List.drop_left]

theorem divideFrom_nil_text (whole : s.text = done ++ cur) :
    (s.divideFrom done.length []).map text = [cur] := by
  rw [divideFrom, List.map_singleton, clip, whole]
  simp only [List.take_length, List.drop_left]

def withoutFeeds (parts : List Text) : List Text :=
  parts.filter fun t => !(t == [CodePoint.ofChar '\n'])

theorem withoutFeeds_cons (within : ∀ c ∈ cur, (c == CodePoint.ofChar '\n') = false)
    (parts : List Text) : withoutFeeds (cur :: parts) = cur :: withoutFeeds parts := by
  refine List.filter_cons_of_pos ?_
  rw [Bool.not_eq_true', beq_eq_false_iff_ne]
  rintro rfl
  cases within _ List.mem_cons_self

theorem withoutFeeds_feed (parts : List Text) :
    withoutFeeds ([CodePoint.ofChar '\n'] :: parts) = withoutFeeds parts := rfl

theorem nothing_done (s : Styled) : s.text = [] ++ [] ++ s.text := rfl

/-- Cut in front of line feeds and behind them, a text falls into its lines, and those. By
induction on what is still to be read, where `cur` is what is read of the line. -/
theorem divideFrom_lines (whole : s.text = done ++ cur ++ rest)
    (within : ∀ c ∈ cur, (c == CodePoint.ofChar '\n') = false) :
    withoutFeeds ((s.divideFrom done.length
        ((positionsFrom '\n' (done ++ cur).length rest).flatMap fun n => [n, n + 1])).map text)
      = Text.lines (cur ++ rest) := by
  induction rest generalizing done cur with
  | nil =>
    rw [List.append_nil] at whole ⊢
    rw [Text.lines, Text.pieces_of_free within, positionsFrom, List.flatMap_nil,
      divideFrom_nil_text whole, withoutFeeds_cons within]
    rfl
  | cons c more ih =>
    rw [positionsFrom]
    cases feed : c == CodePoint.ofChar '\n' with
    | true =>
      obtain rfl := beq_iff_eq.mp feed
      have isFeed : s.text = (done ++ cur) ++ [CodePoint.ofChar '\n'] ++ more := by simp [whole]
      have next : s.text = (done ++ cur ++ [CodePoint.ofChar '\n']) ++ [] ++ more := by simp [whole]
      have later := ih next (List.forall_mem_nil _)
      rw [List.append_nil] at later
      have behind : (done ++ cur ++ [CodePoint.ofChar '\n']).length = (done ++ cur).length + 1 :=
        List.length_append
      rw [if_pos rfl, List.flatMap_cons, Text.lines, Text.pieces_append_cons within rfl, ← behind]
      simp only [List.cons_append, List.nil_append, divideFrom, List.map_cons]
      rw [clip_text whole, clip_text isFeed, withoutFeeds_cons within, withoutFeeds_feed, later]
      rfl
    | false =>
      have next : s.text = done ++ (cur ++ [c]) ++ more := by simp [whole]
      have free : ∀ d ∈ cur ++ [c], (d == CodePoint.ofChar '\n') = false :=
        List.forall_mem_append.mpr ⟨within, List.forall_mem_singleton.mpr feed⟩
      have later := ih next free
      have behind : (done ++ (cur ++ [c])).length = (done ++ cur).length + 1 := by
        rw [← List.append_assoc]
        exact List.length_append
      rw [behind] at later
      rw [if_neg Bool.false_ne_true]
      simpa using later

/-- Cut behind its tabs, a text has no tab but at the ends of its parts. -/
theorem divideFrom_tabs (whole : s.text = done ++ cur ++ rest)
    (within : ∀ c ∈ cur, (c == CodePoint.ofChar '\t') = false) :
    let parts := (s.divideFrom done.length
      ((positionsFrom '\t' (done ++ cur).length rest).map (· + 1))).map text
    parts.flatten = cur ++ rest
      ∧ ∀ part ∈ parts, ∀ c ∈ part.dropLast, (c == CodePoint.ofChar '\t') = false := by
  induction rest generalizing done cur with
  | nil =>
    rw [List.append_nil] at whole ⊢
    rw [positionsFrom, List.map_nil, divideFrom_nil_text whole]
    refine ⟨List.flatten_singleton, List.forall_mem_singleton.mpr fun c there => ?_⟩
    exact within c (List.dropLast_subset _ there)
  | cons c more ih =>
    rw [positionsFrom]
    cases tab : c == CodePoint.ofChar '\t' with
    | true =>
      have here : s.text = done ++ (cur ++ [c]) ++ more := by simp [whole]
      have next : s.text = (done ++ cur ++ [c]) ++ [] ++ more := by simp [whole]
      have later := ih next (List.forall_mem_nil _)
      rw [List.append_nil] at later
      have behind : (done ++ cur ++ [c]).length = (done ++ cur).length + 1 :=
        List.length_append
      rw [if_pos rfl, List.map_cons, ← behind, divideFrom, List.map_cons]
      have first := clip_text here
      rw [← List.append_assoc] at first
      rw [first]
      refine ⟨?_, List.forall_mem_cons.mpr ⟨?_, later.2⟩⟩
      · rw [List.flatten_cons, later.1]
        simp
      · rw [List.dropLast_concat]
        exact within
    | false =>
      have next : s.text = done ++ (cur ++ [c]) ++ more := by simp [whole]
      have free : ∀ d ∈ cur ++ [c], (d == CodePoint.ofChar '\t') = false :=
        List.forall_mem_append.mpr ⟨within, List.forall_mem_singleton.mpr tab⟩
      have later := ih next free
      rw [if_neg Bool.false_ne_true]
      simpa [Nat.add_assoc] using later

theorem lines_text (s : Styled) : s.lines.map text = Text.lines s.text := by
  have cut : withoutFeeds ((s.divideFrom 0
      ((positions '\n' s.text).flatMap fun n => [n, n + 1])).map text) = Text.lines s.text :=
    divideFrom_lines (nothing_done s) (List.forall_mem_nil _)
  have whole : (s.divideFrom 0 []).map text = [s.text] := divideFrom_nil_text (nothing_done s)
  have filtered (parts : List Styled) : (parts.filter fun line => !line.isLineFeed).map text
      = withoutFeeds (parts.map text) := by
    rw [withoutFeeds, List.filter_map]
    rfl
  simp only [lines, divide]
  rw [filtered, ← cut]
  split
  · rename_i none
    rw [List.isEmpty_iff.mp none, whole]
    rfl
  · rfl

/-- Blanks take the place of a tab at the end of a part, and nothing else changes. -/
theorem filter_withoutTabs (blindTab : p (CodePoint.ofChar '\t') = false)
    (blindBlank : p (CodePoint.ofChar ' ') = false) (column : Nat) (parts : List Styled) :
    ((withoutTabs column parts).flatMap text).filter p = (parts.flatMap text).filter p := by
  have blanks (n : Nat) : (Text.spaces n).filter p = [] := by
    simp [Text.spaces, blindBlank]
  induction parts generalizing column with
  | nil => rfl
  | cons part rest ih =>
    simp only [withoutTabs]
    split
    · rename_i tab
      have ends : part.text = part.text.dropLast ++ [CodePoint.ofChar '\t'] :=
        (List.dropLast_append_getLast? _ (beq_iff_eq.mp tab)).symm
      rw [List.flatMap_cons, List.flatMap_cons, List.filter_append, List.filter_append, ih, stretch,
        List.filter_append, List.filter_append, blanks, blanks]
      conv_rhs => rw [ends]
      simp [blindTab]
    · rw [List.flatMap_cons, List.flatMap_cons, List.filter_append, List.filter_append, ih]

theorem noTab_withoutTabs (column : Nat) {parts : List Styled}
    (inner : ∀ part ∈ parts, ∀ c ∈ part.text.dropLast, (c == CodePoint.ofChar '\t') = false) :
    ∀ c ∈ (withoutTabs column parts).flatMap text, (c == CodePoint.ofChar '\t') = false := by
  have blanks (n : Nat) : ∀ c ∈ Text.spaces n, (c == CodePoint.ofChar '\t') = false := by
    intro c there
    rw [List.eq_of_mem_replicate there]
    rfl
  induction parts generalizing column with
  | nil => exact List.forall_mem_nil _
  | cons part rest ih =>
    obtain ⟨here, there⟩ := List.forall_mem_cons.mp inner
    simp only [withoutTabs]
    split
    · rw [List.flatMap_cons, stretch, List.forall_mem_append, List.forall_mem_append,
        List.forall_mem_append]
      exact ⟨⟨⟨here, blanks 1⟩, blanks _⟩, ih _ there⟩
    · rename_i noTab
      rw [List.flatMap_cons, List.forall_mem_append]
      refine ⟨fun c inside => ?_, ih _ there⟩
      have some := List.ne_nil_of_mem inside
      rw [← List.dropLast_append_getLast some, List.mem_append, List.mem_singleton] at inside
      obtain before | last := inside
      · exact here c before
      · refine beq_eq_false_iff_ne.mpr fun same => noTab ?_
        rw [List.getLast?_eq_some_getLast some, ← last, same, beq_self_eq_true]

theorem positionsFrom_eq_nil_iff {c : CodePoint} {t : Text} (pos : Nat) :
    positionsFrom c pos t = [] ↔ ∀ d ∈ t, (d == c) = false := by
  induction t generalizing pos with
  | nil => exact iff_of_true rfl (List.forall_mem_nil _)
  | cons d rest ih =>
    rw [List.forall_mem_cons, ← ih (pos + 1), positionsFrom]
    cases d == c <;> simp

theorem expandTabs_of_noTab (free : ∀ c ∈ s.text, (c == CodePoint.ofChar '\t') = false) :
    s.expandTabs = s := by
  rw [expandTabs, positions, (positionsFrom_eq_nil_iff 0).mpr free]

/-- The parts of a line behind its tabs, which are expanded one after the other. -/
theorem exists_parts_of_tab {c : CodePoint} (there : c ∈ s.text)
    (tab : (c == CodePoint.ofChar '\t') = true) :
    ∃ parts : List Styled, parts.flatMap text = s.text
      ∧ (∀ part ∈ parts, ∀ c ∈ part.text.dropLast, (c == CodePoint.ofChar '\t') = false)
      ∧ s.expandTabs.text = (withoutTabs 0 parts).flatMap text := by
  have cuts : positions '\t' s.text ≠ [] := fun none => by
    cases tab.symm.trans ((positionsFrom_eq_nil_iff 0).mp none c there)
  obtain ⟨whole, inner⟩ :=
    divideFrom_tabs (nothing_done s) (List.forall_mem_nil _)
  have full (parts : List Styled) :
      (parts.filter fun part => !part.text.isEmpty).flatMap text = parts.flatMap text := by
    induction parts with
    | nil => rfl
    | cons part rest ih =>
      rw [List.filter_cons, List.flatMap_cons, ← ih]
      cases empty : part.text <;> simp [empty]
  refine ⟨(s.divideFrom 0 ((positions '\t' s.text).map (· + 1))).filter
    fun part => !part.text.isEmpty, ?_, ?_, ?_⟩
  · rw [full, List.flatMap_def]
    exact whole
  · intro part among
    exact inner part.text (List.mem_map_of_mem (List.mem_of_mem_filter among))
  · rw [expandTabs]
    split
    · rename_i none
      exact absurd none cuts
    · rw [divide, if_neg (by simpa using cuts)]

theorem filter_expandTabs (blindTab : p (CodePoint.ofChar '\t') = false)
    (blindBlank : p (CodePoint.ofChar ' ') = false) (s : Styled) :
    s.expandTabs.text.filter p = s.text.filter p := by
  by_cases tab : ∃ c ∈ s.text, (c == CodePoint.ofChar '\t') = true
  · obtain ⟨c, there, isTab⟩ := tab
    obtain ⟨parts, whole, -, expanded⟩ := exists_parts_of_tab there isTab
    rw [expanded, filter_withoutTabs blindTab blindBlank, whole]
  · rw [expandTabs_of_noTab fun c there => Bool.eq_false_iff.mpr fun isTab => tab ⟨c, there, isTab⟩]

theorem noTab_expandTabs (s : Styled) :
    ∀ c ∈ s.expandTabs.text, (c == CodePoint.ofChar '\t') = false := by
  by_cases tab : ∃ c ∈ s.text, (c == CodePoint.ofChar '\t') = true
  · obtain ⟨c, there, isTab⟩ := tab
    obtain ⟨parts, -, inner, expanded⟩ := exists_parts_of_tab there isTab
    rw [expanded]
    exact noTab_withoutTabs 0 inner
  · have free (c : CodePoint) (there : c ∈ s.text) : (c == CodePoint.ofChar '\t') = false :=
      Bool.eq_false_iff.mpr fun isTab => tab ⟨c, there, isTab⟩
    rw [expandTabs_of_noTab free]
    exact free

end Styled

namespace Remark
variable {p : CodePoint → Bool} {t : Text}

theorem expanded_of_noTab (free : ∀ c ∈ t, (c == CodePoint.ofChar '\t') = false) :
    expanded t = t := by
  have lines : ((Styled.plain t).lines.map fun line => line.expandTabs.text) = Text.lines t := by
    rw [← show (Styled.plain t).lines.map Styled.text = Text.lines t from Styled.lines_text _]
    refine List.map_congr_left fun line among => ?_
    have inside : line.text ∈ Text.lines t :=
      Styled.lines_text (Styled.plain t) ▸ List.mem_map_of_mem among
    rw [Styled.expandTabs_of_noTab fun c there => free c (Text.mem_pieces _ inside c there).2]
  rw [expanded, lines, Text.join_lines]

theorem noTab_expanded (t : Text) : ∀ c ∈ expanded t, (c == CodePoint.ofChar '\t') = false := by
  rw [expanded, Text.forall_mem_join (by decide)]
  intro part among
  obtain ⟨line, -, rfl⟩ := List.mem_map.mp among
  exact line.noTab_expandTabs

theorem filter_expanded (blindFeed : p (CodePoint.ofChar '\n') = false)
    (blindTab : p (CodePoint.ofChar '\t') = false) (blindBlank : p (CodePoint.ofChar ' ') = false)
    (t : Text) : (expanded t).filter p = t.filter p := by
  have whole := congrArg (List.filter p) (Text.join_lines t)
  rw [Text.filter_join _ blindFeed] at whole
  rw [expanded, Text.filter_join _ blindFeed, ← whole, List.flatMap_map,
    ← show (Styled.plain t).lines.map Styled.text = Text.lines t from Styled.lines_text _,
    List.flatMap_map]
  simp only [Styled.filter_expandTabs blindTab blindBlank]

end Remark
end ExposureLint
