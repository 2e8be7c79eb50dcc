import Mathlib
import Uplift.Text.Lines

/-!
# Lines of a text

Where a line stands in a text, said without cutting the text up: after a line feed or at the
beginning, and before a line feed, a carriage return with a line feed, or the end (`Text.IsLine`).
The lines that a text is cut into are just these, in order (`Text.getElem?_lines`).
-/

namespace Uplift.Text

/-- What follows a line in a text. Only a carriage return before a line feed belongs to the end of a
line, and no empty line stands at the end of a text. -/
inductive EndsLine (line : List Char) : List Char → Prop
  | lineFeed {rest : List Char} : line.getLast? ≠ some '\r' → EndsLine line ('\n' :: rest)
  | returnLineFeed {rest : List Char} : EndsLine line ('\r' :: '\n' :: rest)
  | textEnd : line ≠ [] → EndsLine line []

/-- A text has a line with that number, counted from one. -/
def IsLine (text : List Char) (number : Nat) (line : List Char) : Prop :=
  ∃ before after, text = before ++ (line ++ after) ∧
    (before = [] ∨ before.getLast? = some '\n') ∧ number = before.count '\n' + 1 ∧
    '\n' ∉ line ∧ EndsLine line after

variable {a b rest text line : List Char} {n : Nat}

/-! ## The first line -/

theorem linesFrom_append (acc : List Char) (fresh : '\n' ∉ a) :
    linesFrom acc (a ++ rest) = linesFrom (a.reverse ++ acc) rest := by
  induction a generalizing acc with
  | nil => rfl
  | cons c a ih =>
    rw [List.mem_cons, not_or] at fresh
    rw [List.cons_append, linesFrom, if_neg (Ne.symm fresh.1), ih (c :: acc) fresh.2,
      List.reverse_cons, List.append_assoc]
    rfl

theorem lines_last (fresh : '\n' ∉ a) : lines a = if a = [] then [] else [a] := by
  have whole : linesFrom [] (a ++ []) = linesFrom (a.reverse ++ []) [] := linesFrom_append [] fresh
  rw [List.append_nil, List.append_nil] at whole
  rw [lines, whole, linesFrom, List.reverse_reverse]
  simp

theorem lines_cons (fresh : '\n' ∉ a) :
    lines (a ++ '\n' :: rest) = finishLine a.reverse :: lines rest := by
  rw [lines, linesFrom_append [] fresh, linesFrom, if_pos rfl, List.append_nil]
  rfl

/-- A carriage return at the end of a line does not count; no other character is lost. -/
theorem finishLine_cases (a : List Char) :
    (∃ line, a = line ++ ['\r'] ∧ finishLine a.reverse = line) ∨
      (a.getLast? ≠ some '\r' ∧ finishLine a.reverse = a) := by
  cases a using List.reverseRecOn with
  | nil => exact .inr ⟨by simp, rfl⟩
  | append_singleton front c =>
    by_cases returned : c = '\r'
    · subst returned
      exact .inl ⟨front, rfl, by simp [finishLine]⟩
    · refine .inr ⟨by simpa using returned, ?_⟩
      rw [List.reverse_concat]
      unfold finishLine
      split
      · next same => exact absurd (List.cons.inj same).1 returned
      · simp

/-- A text is cut at its first line feed in one way only. -/
theorem eq_of_cut {b' : List Char} (fresh : '\n' ∉ a) (fresh' : '\n' ∉ b)
    (same : a ++ '\n' :: rest = b ++ '\n' :: b') : a = b ∧ rest = b' := by
  induction a generalizing b with
  | nil =>
    cases b with
    | nil => exact ⟨rfl, (List.cons.inj same).2⟩
    | cons d b => exact absurd (List.cons.inj same).1 fun e => fresh' (e ▸ List.mem_cons_self)
  | cons c a ih =>
    cases b with
    | nil => exact absurd (List.cons.inj same).1.symm fun e => fresh (e ▸ List.mem_cons_self)
    | cons d b =>
      obtain ⟨rfl, tails⟩ := List.cons.inj same
      rw [List.mem_cons, not_or] at fresh fresh'
      obtain ⟨rfl, rests⟩ := ih fresh.2 fresh'.2 tails
      exact ⟨rfl, rests⟩

theorem isLine_first_iff : IsLine text 1 line ↔
    ∃ after, text = line ++ after ∧ '\n' ∉ line ∧ EndsLine line after := by
  constructor
  · rintro ⟨before, after, rfl, start, number, fresh, ends⟩
    have none : before.count '\n' = 0 := by omega
    rcases start with rfl | lineFeed
    · exact ⟨after, rfl, fresh, ends⟩
    · exact absurd (List.mem_of_getLast? lineFeed) (List.count_eq_zero.mp none)
  · rintro ⟨after, same, fresh, ends⟩
    exact ⟨[], after, same, .inl rfl, rfl, fresh, ends⟩

/-- The lines after the first line feed are those of what follows it. -/
theorem isLine_next_iff (fresh : '\n' ∉ a) :
    IsLine (a ++ '\n' :: rest) (n + 2) line ↔ IsLine rest (n + 1) line := by
  constructor
  · rintro ⟨before, after, same, start, number, freshLine, ends⟩
    have counted : 0 < before.count '\n' := by omega
    obtain ⟨front, before, rfl, freshFront⟩ :=
      List.eq_append_cons_of_mem (List.count_pos_iff.mp counted)
    rw [List.append_assoc, List.cons_append] at same
    obtain ⟨rfl, rfl⟩ := eq_of_cut fresh freshFront same
    refine ⟨before, after, rfl, ?_, ?_, freshLine, ends⟩
    · by_cases empty : before = []
      · exact .inl empty
      · have last := start.resolve_left (by simp)
        rw [List.getLast?_append_of_ne_nil _ (List.cons_ne_nil _ _)] at last
        exact .inr (by rwa [List.getLast?_cons_of_ne_nil empty] at last)
    · rw [List.count_append, List.count_cons_self, List.count_eq_zero.mpr fresh] at number
      omega
  · rintro ⟨before, after, rfl, start, number, freshLine, ends⟩
    refine ⟨a ++ '\n' :: before, after, by simp, .inr ?_, ?_, freshLine, ends⟩
    · rw [List.getLast?_append_of_ne_nil _ (List.cons_ne_nil _ _)]
      rcases start with rfl | lineFeed
      · rfl
      · rw [List.getLast?_cons, lineFeed]
        rfl
    · rw [List.count_append, List.count_cons_self, List.count_eq_zero.mpr fresh]
      omega

/-! ## All lines -/

theorem isLine_first_cut_iff (fresh : '\n' ∉ a) :
    IsLine (a ++ '\n' :: rest) 1 line ↔ finishLine a.reverse = line := by
  rw [isLine_first_iff]
  constructor
  · rintro ⟨after, same, freshLine, ends⟩
    cases ends with
    | lineFeed plain =>
      obtain ⟨rfl, -⟩ := eq_of_cut fresh freshLine same
      rcases finishLine_cases a with ⟨front, rfl, -⟩ | ⟨-, whole⟩
      · exact absurd (by simp) plain
      · exact whole
    | returnLineFeed =>
      rw [List.append_cons line] at same
      obtain ⟨rfl, -⟩ := eq_of_cut fresh (by simpa using freshLine) same
      simp [finishLine]
    | textEnd filled =>
      rw [List.append_nil] at same
      exact absurd (same ▸ List.mem_append_right a List.mem_cons_self) freshLine
  · rintro rfl
    rcases finishLine_cases a with ⟨front, rfl, cut⟩ | ⟨plain, whole⟩
    · rw [cut]
      exact ⟨_, List.append_assoc .., fun member => fresh (List.mem_append_left _ member),
        .returnLineFeed⟩
    · rw [whole]
      exact ⟨_, rfl, fresh, .lineFeed plain⟩

/-- A text without line feeds is one line, or none if it is empty. -/
theorem getElem?_lines_last (fresh : '\n' ∉ text) :
    (lines text)[n]? = some line ↔ IsLine text (n + 1) line := by
  rw [lines_last fresh]
  constructor
  · intro found
    by_cases empty : text = []
    · simp [empty] at found
    · rw [if_neg empty] at found
      obtain ⟨first, rfl⟩ := List.getElem?_eq_some_iff.mp found
      obtain rfl : n = 0 := by simpa using first
      exact isLine_first_iff.mpr ⟨[], (List.append_nil text).symm, fresh, .textEnd empty⟩
  · rintro ⟨before, after, rfl, start, number, -, ends⟩
    have none : '\n' ∉ before := fun member => fresh (List.mem_append_left _ member)
    obtain rfl : n = 0 := by
      rw [List.count_eq_zero.mpr none] at number
      omega
    obtain rfl : before = [] := start.resolve_right fun last => none (List.mem_of_getLast? last)
    cases ends with
    | lineFeed | returnLineFeed => simp at fresh
    | textEnd filled => simp [filled]

/-- **The lines of a text are those that stand in it**, in order. -/
theorem getElem?_lines : (lines text)[n]? = some line ↔ IsLine text (n + 1) line := by
  -- The induction is on the lines before the one that is asked for.
  induction n generalizing text with
  | zero =>
    by_cases cut : '\n' ∈ text
    · obtain ⟨a, rest, rfl, fresh⟩ := List.eq_append_cons_of_mem cut
      rw [lines_cons fresh, isLine_first_cut_iff fresh]
      simp
    · exact getElem?_lines_last cut
  | succ n ih =>
    by_cases cut : '\n' ∈ text
    · obtain ⟨a, rest, rfl, fresh⟩ := List.eq_append_cons_of_mem cut
      rw [lines_cons fresh, List.getElem?_cons_succ, ih, isLine_next_iff fresh]
    · exact getElem?_lines_last cut

end Uplift.Text
