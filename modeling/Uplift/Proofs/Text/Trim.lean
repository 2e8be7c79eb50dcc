import Mathlib
import Uplift.Text.Blank

/-!
# Cutting blanks off

A text with blanks around it, trimmed, is the text again, provided that it neither begins nor ends
with a blank (`trim_padded`). Blanks at the end never count (`trim_append_blank`), nothing is left
of blanks alone (`trim_eq_nil_iff`), only blanks are lost (`exists_eq_trim`), and what is left has
no blanks around it (`trim_trim`). Where a text is split at marks and each part trimmed, it does not
matter whether the text was trimmed before (`map_trim_splitOn_trim`).
-/

namespace Uplift.Text

/-- A text begins and ends with something other than a blank. -/
structure Trimmed (s : List Char) : Prop where
  first : ∃ c rest, s = c :: rest ∧ isBlank c = false
  last : ∃ front c, s = front ++ [c] ∧ isBlank c = false

theorem Trimmed.trimStart {s : List Char} (h : Trimmed s) (rest : List Char) :
    trimStart (s ++ rest) = s ++ rest := by
  obtain ⟨c, tail, rfl, notBlank⟩ := h.first
  exact trimStart_of_not_blank notBlank

theorem Trimmed.trimEnd {s : List Char} (h : Trimmed s) : trimEnd s = s := by
  obtain ⟨front, c, rfl, notBlank⟩ := h.last
  simp [Text.trimEnd, notBlank]

theorem trimStart_append {a b : List Char} (blank : isBlankText a = true) :
    trimStart (a ++ b) = trimStart b :=
  List.dropWhile_append_of_pos (by simpa [isBlankText] using blank)

theorem trimEnd_append {a b : List Char} (blank : isBlankText b = true) :
    trimEnd (a ++ b) = trimEnd a := by
  have reversed : ∀ c ∈ b.reverse, isBlank c = true := by simpa [isBlankText] using blank
  simp only [trimEnd, List.reverse_append]
  rw [List.dropWhile_append_of_pos reversed]

/-- Only the blanks around a text are cut off. -/
theorem trim_padded {a s b : List Char} (before : isBlankText a = true) (h : Trimmed s)
    (after : isBlankText b = true) : trim (a ++ (s ++ b)) = s := by
  rw [trim, trimStart_append before, h.trimStart, trimEnd_append after, h.trimEnd]

theorem Trimmed.trim {s : List Char} (h : Trimmed s) : trim s = s := by
  rw [Text.trim, ← List.append_nil s, h.trimStart, List.append_nil, h.trimEnd]

theorem isBlankText_nil : isBlankText [] = true := rfl

theorem trimStart_eq_nil_iff {s : List Char} : trimStart s = [] ↔ isBlankText s = true := by
  simp [trimStart, isBlankText, List.dropWhile_eq_nil_iff]

/-- Blanks at the end of a text are cut off. -/
theorem trim_append_blank {s b : List Char} (blank : isBlankText b = true) :
    trim (s ++ b) = trim s := by
  by_cases empty : isBlankText s = true
  · rw [trim, trim, trimStart_append empty, trimStart_eq_nil_iff.mpr blank,
      trimStart_eq_nil_iff.mpr empty]
  · have filled : (trimStart s).isEmpty = false := by
      rw [List.isEmpty_eq_false_iff]
      exact fun same => empty (trimStart_eq_nil_iff.mp same)
    have start : trimStart (s ++ b) = trimStart s ++ b := by
      rw [trimStart] at filled ⊢
      rw [List.dropWhile_append, filled]
      rfl
    rw [trim, trim, start, trimEnd_append blank]

/-- What is left begins with something other than a blank. -/
theorem exists_cons_of_trimStart {s : List Char} (filled : trimStart s ≠ []) :
    ∃ c rest, trimStart s = c :: rest ∧ isBlank c = false := by
  obtain ⟨c, rest, split⟩ := List.exists_cons_of_ne_nil filled
  refine ⟨c, rest, split, ?_⟩
  have head := List.head?_dropWhile_not isBlank s
  rw [trimStart] at split
  simpa [split] using head

/-- Only blanks leave nothing. -/
theorem trim_eq_nil_iff {s : List Char} : trim s = [] ↔ isBlankText s = true := by
  rw [← trimStart_eq_nil_iff, trim]
  constructor
  · intro gone
    by_contra filled
    obtain ⟨c, rest, split, first⟩ := exists_cons_of_trimStart filled
    have ends := List.reverse_eq_nil_iff.mp gone
    rw [List.dropWhile_eq_nil_iff] at ends
    have blank := ends c (by simp [split])
    exact absurd blank (by simp [first])
  · intro empty
    rw [empty]
    rfl

/-- Trimming takes nothing but blanks off both ends. -/
theorem exists_eq_trim (s : List Char) :
    ∃ a b, isBlankText a = true ∧ isBlankText b = true ∧ s = a ++ (trim s ++ b) := by
  refine ⟨s.takeWhile isBlank, ((trimStart s).reverse.takeWhile isBlank).reverse, ?_, ?_, ?_⟩
  · simp [isBlankText]
  · simp [isBlankText]
  · rw [trim, trimEnd, ← List.reverse_append, List.takeWhile_append_dropWhile, List.reverse_reverse,
      trimStart, List.takeWhile_append_dropWhile]

/-- A text of which no character is a blank. -/
theorem Trimmed.of_all {s : List Char} (nonempty : s ≠ [])
    (notBlank : ∀ c ∈ s, isBlank c = false) : Trimmed s where
  first := by
    obtain ⟨c, rest, rfl⟩ := List.exists_cons_of_ne_nil nonempty
    exact ⟨c, rest, rfl, notBlank c List.mem_cons_self⟩
  last := by
    refine ⟨s.dropLast, s.getLast nonempty, (List.dropLast_append_getLast nonempty).symm, ?_⟩
    exact notBlank _ (List.getLast_mem nonempty)

/-- What is left of a text has no blanks around it. -/
theorem trimmed_trim {s : List Char} (filled : trim s ≠ []) : Trimmed (trim s) := by
  have reversed : trim s = (trimStart (trimStart s).reverse).reverse := rfl
  obtain ⟨d, back, last, lastNotBlank⟩ := exists_cons_of_trimStart (s := (trimStart s).reverse)
    fun empty => filled (by rw [reversed, empty]; rfl)
  have shape : trim s = back.reverse ++ [d] := by rw [reversed, last, List.reverse_cons]
  refine ⟨?_, back.reverse, d, shape, lastNotBlank⟩
  -- What is left after the cut at the end begins as the text did before it.
  obtain ⟨c, rest, first, firstNotBlank⟩ := exists_cons_of_trimStart (s := s)
    fun empty => filled (by rw [reversed, empty]; rfl)
  obtain ⟨e, front, begins⟩ := List.exists_cons_of_ne_nil filled
  have before : trim s <+: c :: rest := by
    rw [reversed, ← first, ← List.reverse_suffix, List.reverse_reverse]
    exact List.dropWhile_suffix _
  rw [begins] at before
  obtain rfl := (List.cons_prefix_cons.mp before).1
  exact ⟨e, front, begins, firstNotBlank⟩

theorem trim_trim (s : List Char) : trim (trim s) = trim s := by
  by_cases filled : trim s = []
  · rw [filled]
    rfl
  · exact (trimmed_trim filled).trim

/-- What is left stands in the text. -/
theorem trim_within (s : List Char) : trim s <:+: s := by
  obtain ⟨a, b, -, -, same⟩ := exists_eq_trim s
  exact ⟨a, b, by rw [List.append_assoc, ← same]⟩

theorem notMem_of_isBlankText {mark : Char} {s : List Char} (notBlank : isBlank mark = false)
    (blank : isBlankText s = true) : mark ∉ s := by
  intro member
  rw [List.all_eq_true.mp blank mark member] at notBlank
  cases notBlank

/-- The second text is the first with blanks around it, perhaps none. -/
def WithBlanks (core s : List Char) : Prop :=
  ∃ a b, isBlankText a = true ∧ isBlankText b = true ∧ s = a ++ (core ++ b)

theorem WithBlanks.refl (s : List Char) : WithBlanks s s :=
  ⟨[], [], isBlankText_nil, isBlankText_nil, by simp⟩

/-- Trimming takes nothing but blanks off both ends. -/
theorem withBlanks_trim (s : List Char) : WithBlanks (trim s) s := exists_eq_trim s

theorem WithBlanks.trim_eq {core s : List Char} (around : WithBlanks core s) (h : Trimmed core) :
    Text.trim s = core := by
  obtain ⟨a, b, before, after, rfl⟩ := around
  exact trim_padded before h after

theorem WithBlanks.notMem {mark : Char} {core s : List Char} (around : WithBlanks core s)
    (notBlank : isBlank mark = false) (noMark : mark ∉ core) : mark ∉ s := by
  obtain ⟨a, b, before, after, rfl⟩ := around
  simp [notMem_of_isBlankText notBlank before, noMark, notMem_of_isBlankText notBlank after]

/-- A text that begins as one trimmed text does and ends as another does. -/
theorem Trimmed.append {a b : List Char} (ha : Trimmed a) (hb : Trimmed b) (mid : List Char) :
    Trimmed (a ++ (mid ++ b)) where
  first := by
    obtain ⟨c, rest, rfl, notBlank⟩ := ha.first
    exact ⟨c, rest ++ (mid ++ b), rfl, notBlank⟩
  last := by
    obtain ⟨front, c, rfl, notBlank⟩ := hb.last
    exact ⟨a ++ (mid ++ front), c, by simp, notBlank⟩

/-- A text cut at a separator is what stands before the first of them, it, and the rest. -/
theorem eq_of_splitOnce {sep : Char} {s a b : List Char} (split : splitOnce sep s = some (a, b)) :
    s = a ++ sep :: b ∧ sep ∉ a := by
  induction s generalizing a with
  | nil => cases split
  | cons c s ih =>
    rw [splitOnce] at split
    by_cases here : c = sep
    · rw [if_pos here] at split
      obtain ⟨rfl, rfl⟩ := Prod.mk.inj (Option.some.inj split)
      exact ⟨by rw [here]; rfl, List.not_mem_nil⟩
    · rw [if_neg here] at split
      obtain ⟨⟨front, back⟩, later, same⟩ := Option.map_eq_some_iff.mp split
      obtain ⟨rfl, rfl⟩ := Prod.mk.inj same
      obtain ⟨rfl, notFront⟩ := ih later
      exact ⟨rfl, by simp [Ne.symm here, notFront]⟩

/-! ## Texts split at every mark -/

section Splits

variable {mark : Char}

theorem notMem_of_mem_splitOn {s part : List Char} (member : part ∈ s.splitOn mark) :
    mark ∉ part := by
  induction s generalizing part with
  | nil =>
    obtain rfl : part = [] := by simpa using member
    exact List.not_mem_nil
  | cons c s ih =>
    rw [List.splitOn_cons_eq_if_modifyHead] at member
    by_cases here : c = mark
    · rw [if_pos (by simpa using here)] at member
      rcases List.mem_cons.mp member with rfl | later
      · exact List.not_mem_nil
      · exact ih later
    · rw [if_neg (by simpa using here)] at member
      obtain ⟨first, rest, split⟩ := List.exists_cons_of_ne_nil (List.splitOn_ne_nil mark s)
      rw [split] at member ih
      rcases List.mem_cons.mp member with rfl | later
      · simp [ih List.mem_cons_self, Ne.symm here]
      · exact ih (List.mem_cons_of_mem _ later)

theorem eq_or_mem_of_mem_intercalate {c : Char} {parts : List (List Char)}
    (member : c ∈ [mark].intercalate parts) : c = mark ∨ ∃ part ∈ parts, c ∈ part := by
  induction parts with
  | nil => cases member
  | cons part parts ih =>
    cases parts with
    | nil => exact .inr ⟨part, List.mem_cons_self, by simpa using member⟩
    | cons next parts =>
      rw [List.intercalate_cons_cons, List.mem_append, List.mem_append,
        List.mem_singleton] at member
      rcases member with (here | between) | later
      · exact .inr ⟨part, List.mem_cons_self, here⟩
      · exact .inl between
      · refine (ih later).imp_right ?_
        rintro ⟨other, among, here⟩
        exact ⟨other, List.mem_cons_of_mem _ among, here⟩

/-- What is appended without a mark goes to the last part. -/
theorem splitOn_append {b : List Char} (noMark : mark ∉ b) (s : List Char) :
    ∃ front last, s.splitOn mark = front ++ [last] ∧
      (s ++ b).splitOn mark = front ++ [last ++ b] := by
  induction s with
  | nil => exact ⟨[], [], by simp, by simp [List.splitOn_eq_singleton noMark]⟩
  | cons c s ih =>
    obtain ⟨front, last, split, split'⟩ := ih
    rw [List.cons_append, List.splitOn_cons_eq_if_modifyHead, List.splitOn_cons_eq_if_modifyHead,
      split, split']
    by_cases here : c = mark
    · exact ⟨[] :: front, last, by simp [here], by simp [here]⟩
    · cases front with
      | nil => exact ⟨[], c :: last, by simp [here], by simp [here]⟩
      | cons first front => exact ⟨(c :: first) :: front, last, by simp [here], by simp [here]⟩

theorem map_trim_splitOn_blanks {a : List Char} (notBlank : isBlank mark = false)
    (blank : isBlankText a = true) (s : List Char) :
    ((a ++ s).splitOn mark).map trim = (s.splitOn mark).map trim := by
  induction a with
  | nil => rfl
  | cons c a ih =>
    simp only [isBlankText, List.all_cons, Bool.and_eq_true] at blank
    have other : c ≠ mark := by
      rintro rfl
      rw [blank.1] at notBlank
      cases notBlank
    rw [← ih blank.2, List.cons_append, List.splitOn_cons_eq_if_modifyHead,
      if_neg (by simpa using other)]
    obtain ⟨first, rest, split⟩ := List.exists_cons_of_ne_nil (List.splitOn_ne_nil mark (a ++ s))
    have skipped : trim (c :: first) = trim first := by simp [trim, trimStart, blank.1]
    simp [split, skipped]

/-- The blanks around a text are also cut off with those around its parts. -/
theorem map_trim_splitOn_trim (notBlank : isBlank mark = false) (s : List Char) :
    ((trim s).splitOn mark).map trim = (s.splitOn mark).map trim := by
  obtain ⟨a, b, before, after, same⟩ := exists_eq_trim s
  obtain ⟨front, last, split, split'⟩ :=
    splitOn_append (notMem_of_isBlankText notBlank after) (trim s)
  conv_rhs => rw [same, map_trim_splitOn_blanks notBlank before, split']
  rw [split, List.map_append, List.map_append, List.map_singleton, List.map_singleton,
    trim_append_blank after]

end Splits

/-- What follows a word that is stripped off stands at the end of the text. -/
theorem strip?_suffix {lead s rest : List Char} (stripped : strip? lead s = some rest) :
    rest <:+ s := by
  rw [strip?] at stripped
  split at stripped
  · exact Option.some.inj stripped ▸ List.drop_suffix _ _
  · cases stripped

/-- What is between two marks stands in the text. -/
theorem enclosed?_within {opening closing : Char} {s inner : List Char}
    (between : enclosed? opening closing s = some inner) : inner <:+: s := by
  cases s with
  | nil => cases between
  | cons c rest =>
    rw [enclosed?] at between
    split at between
    · obtain rfl := Option.some.inj between
      exact (List.dropLast_prefix rest).isInfix.trans (List.suffix_cons c rest).isInfix
    · cases between

end Uplift.Text
