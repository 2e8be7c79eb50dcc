import Uplift.Proofs.Condition.Reading

/-!
# Reading undoes writing

A condition that is written down in any of the ways of `WrittenCondition` is read as the condition
that is meant (`parse_written`): one query alone, or all or any of several, in order and with their
parameters in order. If two of its connectives differ it is refused for that reason.

The cutter is followed from one connective to the next (`cutFrom_branch`); what it cuts out is each
query with blanks around it (`Padded`), which is what the reader of single queries accepts.
-/

namespace Uplift.Condition

open Text

/-- A text is a written query with blanks around it. -/
def Padded (s : List Char) (q : WrittenQuery) : Prop :=
  ∃ a b : Blanks, s = a.text ++ (q.text ++ b.text)

theorem Padded.term {s : List Char} {q : WrittenQuery} (h : Padded s q) :
    term s = .ok q.query := by
  obtain ⟨a, b, rfl⟩ := h
  exact q.term_written a b

theorem Padded.not_blank {s : List Char} {q : WrittenQuery} (h : Padded s q) :
    isBlankText s = false := by
  obtain ⟨a, b, rfl⟩ := h
  obtain ⟨c, rest, same, notBlank⟩ := q.trimmed.first
  simp [isBlankText, same, notBlank]

/-! ## From one connective to the next -/

/-- The blanks of a gap but the last one. -/
def Gap.init (g : Gap) : Blanks where
  text := g.text.dropLast
  blank := by
    have blank := g.blank
    simp only [isBlankText, List.all_eq_true] at blank ⊢
    exact fun c member => blank c (List.dropLast_subset _ member)

/-- A connective ends the current term and the query after it begins the next, unless another
connective was found before. -/
theorem cutFrom_branch (b : WrittenBranch) (found : Option Connective) (current rest : List Char) :
    cutFrom none 0 found current (b.text ++ rest) =
      if found.isSome ∧ found ≠ some b.connective then .error .mixedConnectives
      else (cutFrom none 0 (some b.connective) (b.after.text ++ b.query.text).reverse rest).map
        fun cut => { cut with terms := (current.reverse ++ b.before.init.text) :: cut.terms } := by
  obtain ⟨x, blanks, sameAfter, blankAfter⟩ := b.after.exists_cons
  have blankLast : isBlank (b.before.text.getLast b.before.nonempty) = true :=
    b.before.isBlank_of_mem (List.getLast_mem _)
  have sameBefore := List.dropLast_append_getLast b.before.nonempty
  set last := b.before.text.getLast b.before.nonempty with lastDef
  -- The last blank of the gap is the one at which the connective is looked for.
  have shape : b.text ++ rest = b.before.init.text ++
      (last :: (b.word ++ (b.after.text ++ (b.query.text ++ rest)))) := by
    simp only [WrittenBranch.text, Gap.init, List.append_assoc]
    rw [← sameBefore]
    simp
  have word : connective? (b.word ++ (b.after.text ++ (b.query.text ++ rest))) =
      some (b.connective, b.after.text ++ (b.query.text ++ rest)) := by
    rw [sameAfter]
    exact connective?_word b.spelled blankAfter
  rw [shape, cutFrom_blanks b.before.init.blank (connective?_blank blankLast),
    cutFrom_connective blankLast word, cutFrom_blanks b.after.blank
      (b.query.no_connective_at_text rest), b.query.passes]
  simp

/-- With equal connectives the cutter gives the terms, each with blanks around it. -/
theorem cutFrom_branches {c : Connective} {branches : List WrittenBranch}
    (agree : ∀ b ∈ branches, b.connective = c) (before after : Blanks) (first : WrittenQuery) :
    ∃ terms, cutFrom none 0 (some c) (before.text ++ first.text).reverse
        (branches.flatMap (·.text) ++ after.text) = .ok ⟨some c, terms⟩ ∧
      List.Forall₂ Padded terms (first :: branches.map (·.query)) := by
  induction branches generalizing before first with
  | nil =>
    refine ⟨[before.text ++ (first.text ++ after.text)], ?_, .cons ⟨before, after, rfl⟩ .nil⟩
    have blanks := cutFrom_blanks after.blank connective?_nil 0 (some c)
      (before.text ++ first.text).reverse
    simp only [List.append_nil] at blanks
    rw [List.flatMap_nil, List.nil_append, blanks, cutFrom_nil]
    simp
  | cons b branches ih =>
    have same : b.connective = c := agree b List.mem_cons_self
    obtain ⟨terms, cut, padded⟩ :=
      ih (fun x member => agree x (List.mem_cons_of_mem b member)) b.after.toBlanks b.query
    refine ⟨(before.text ++ (first.text ++ b.before.init.text)) :: terms, ?_,
      .cons ⟨before, b.before.init, rfl⟩ padded⟩
    rw [List.flatMap_cons, List.append_assoc, cutFrom_branch, same, if_neg (by simp), cut]
    simp [Except.map]

/-- A connective that differs from one before it is the end of the reading. -/
theorem cutFrom_mixed {c : Connective} {branches : List WrittenBranch}
    (differ : ∃ b ∈ branches, b.connective ≠ c) (current rest : List Char) :
    cutFrom none 0 (some c) current (branches.flatMap (·.text) ++ rest) =
      .error .mixedConnectives := by
  induction branches generalizing current with
  | nil => exact absurd differ (by simp)
  | cons b branches ih =>
    rw [List.flatMap_cons, List.append_assoc, cutFrom_branch]
    by_cases same : b.connective = c
    · have later : ∃ x ∈ branches, x.connective ≠ c := by
        obtain ⟨x, member, other⟩ := differ
        rcases List.mem_cons.mp member with rfl | member
        · exact absurd same other
        · exact ⟨x, member, other⟩
      rw [same, if_neg (by simp), ih later]
      rfl
    · rw [if_pos ⟨rfl, fun e => same (Option.some.inj e).symm⟩]

/-- The text before the first connective is passed. -/
theorem cutFrom_first (w : WrittenCondition) :
    cutFrom none 0 none [] w.chars = cutFrom none 0 none (w.before.text ++ w.first.text).reverse
      (w.branches.flatMap (·.text) ++ w.after.text) := by
  rw [WrittenCondition.chars, cutFrom_blanks w.before.blank (w.first.no_connective_at_text _),
    w.first.passes]
  simp

/-! ## Whole conditions -/

/-- Terms that are queries with blanks around them are accepted and read as these queries. -/
theorem terms_padded {terms : List (List Char)} {queries : List WrittenQuery}
    (padded : List.Forall₂ Padded terms queries) :
    terms.any isBlankText = false ∧ terms.mapM term = .ok (queries.map (·.query)) := by
  refine ⟨?_, mapM_eq_ok_iff.mpr ?_⟩
  · induction padded with
    | nil => rfl
    | cons head _ ih => rw [List.any_cons, head.not_blank, ih]; rfl
  · rw [List.forall₂_map_right_iff]
    exact padded.imp fun _ _ h => h.term

theorem read_one {w : WrittenCondition} (alone : w.branches = []) :
    read w.chars = .ok (.one w.first.query) := by
  have cut : cutFrom none 0 none [] w.chars =
      .ok ⟨none, [w.before.text ++ (w.first.text ++ w.after.text)]⟩ := by
    have blanks := cutFrom_blanks w.after.blank connective?_nil 0 none
      (w.before.text ++ w.first.text).reverse
    simp only [List.append_nil] at blanks
    rw [cutFrom_first, alone, List.flatMap_nil, List.nil_append, blanks, cutFrom_nil]
    simp
  have padded : List.Forall₂ Padded [w.before.text ++ (w.first.text ++ w.after.text)] [w.first] :=
    .cons ⟨w.before, w.after, rfl⟩ .nil
  obtain ⟨solid, parsed⟩ := terms_padded padded
  simp only [read, Condition.terms, cut, solid, parsed, bind, Except.bind, Bool.false_eq_true,
    if_false]
  rfl

theorem read_agree {w : WrittenCondition} {c : Connective} (several : w.branches ≠ [])
    (agree : ∀ b ∈ w.branches, b.connective = c) : read w.chars = .ok (c.join w.queries) := by
  obtain ⟨b, branches, same⟩ := List.exists_cons_of_ne_nil several
  have head : b.connective = c := agree b (by simp [same])
  have tail : ∀ x ∈ branches, x.connective = c := fun x member => agree x (by simp [same, member])
  obtain ⟨terms, cut, padded⟩ := cutFrom_branches tail b.after.toBlanks w.after b.query
  have whole : cutFrom none 0 none [] w.chars =
      .ok ⟨some c, (w.before.text ++ (w.first.text ++ b.before.init.text)) :: terms⟩ := by
    rw [cutFrom_first, same, List.flatMap_cons, List.append_assoc, cutFrom_branch, if_neg (by simp),
      head, cut]
    simp [Except.map]
  have whole_padded := List.Forall₂.cons (show Padded _ w.first from
    ⟨w.before, b.before.init, rfl⟩) padded
  obtain ⟨solid, parsed⟩ := terms_padded whole_padded
  simp only [read, Condition.terms, whole, solid, parsed, bind, Except.bind, Bool.false_eq_true,
    if_false]
  simp [WrittenCondition.queries, same, Function.comp_def]

theorem read_mixed {w : WrittenCondition} {a b : Connective} (ha : a ∈ w.connectives)
    (hb : b ∈ w.connectives) (differ : a ≠ b) : read w.chars = .error .mixedConnectives := by
  obtain ⟨x, xs, same⟩ : ∃ x xs, w.branches = x :: xs :=
    List.exists_cons_of_ne_nil fun none => by simp [WrittenCondition.connectives, none] at ha
  -- Two connectives differ, so one of them differs from the first.
  have later : ∃ y ∈ xs, y.connective ≠ x.connective := by
    by_contra none
    simp only [not_exists, not_and, not_not] at none
    have all : ∀ c ∈ w.connectives, c = x.connective := by
      intro c member
      simp only [WrittenCondition.connectives, same, List.map_cons, List.mem_cons,
        List.mem_map] at member
      rcases member with rfl | ⟨y, inRest, rfl⟩
      · rfl
      · exact none y inRest
    exact differ ((all a ha).trans (all b hb).symm)
  have cut : cutFrom none 0 none [] w.chars = .error .mixedConnectives := by
    rw [cutFrom_first, same, List.flatMap_cons, List.append_assoc, cutFrom_branch, if_neg (by simp),
      cutFrom_mixed later]
    rfl
  simp only [read, Condition.terms, cut, bind, Except.bind]

/-- **Reading undoes writing.** A query alone is read as itself; several queries with equal
connectives are read as all or any of them, in order and with their parameters in order; and two
connectives that differ are refused. -/
theorem parse_written (w : WrittenCondition) :
    (w.branches = [] → parse w.text = .ok (.one w.first.query)) ∧
    (∀ c, w.branches ≠ [] → (∀ x ∈ w.connectives, x = c) →
      parse w.text = .ok (c.join w.queries)) ∧
    ((∃ a ∈ w.connectives, ∃ b ∈ w.connectives, a ≠ b) →
      parse w.text = .error (.invalidQuery w.text .mixedConnectives)) := by
  have chars : w.text.toList = w.chars := String.toList_ofList
  refine ⟨fun alone => ?_, fun c several agree => ?_, fun ⟨a, ha, b, hb, differ⟩ => ?_⟩
  · rw [parse, chars, read_one alone]
  · have branches : ∀ b ∈ w.branches, b.connective = c := fun b member =>
      agree b.connective (List.mem_map_of_mem member)
    rw [parse, chars, read_agree several branches]
  · rw [parse, chars, read_mixed ha hb differ]

/-- Two queries whose values hold parentheses, commas, an equals sign and a connective. -/
def sampleCondition : WrittenCondition where
  before := .none
  first :=
    { kind := "java".toList
      symbol := "method".toList
      afterHead := ⟨⟨[' '], rfl⟩, by decide⟩
      beforeArguments := ⟨⟨[' '], rfl⟩, by decide⟩
      arguments := .list
        ⟨.none, "name".toList, ⟨[' '], rfl⟩, .none,
          ⟨'"', "f(a, 'b') AND g".toList, rfl, by decide⟩, .none,
          by decide, List.all_eq_true.mp rfl⟩
        [⟨⟨['\n'], rfl⟩, "x".toList, .none, .none, .single "=)".toList (by decide), .none,
          by decide, List.all_eq_true.mp rfl⟩]
        (by decide)
      isKind := rfl
      isSymbol := rfl }
  branches :=
    [{ before := ⟨⟨[' ', ' '], rfl⟩, by decide⟩
       connective := .or
       word := "oR".toList
       after := ⟨⟨[' '], rfl⟩, by decide⟩
       query :=
        { kind := "and".toList
          symbol := "or".toList
          afterHead := ⟨⟨[' '], rfl⟩, by decide⟩
          beforeArguments := ⟨⟨[' '], rfl⟩, by decide⟩
          arguments := .value (.single "*.xml".toList (by decide))
          isKind := rfl
          isSymbol := rfl }
       spelled := rfl }]
  after := .none

theorem parse_written_sample :
    parse "java.method is (name =\"f(a, 'b') AND g\",\nx='=)')  oR and.or is '*.xml'" =
      .ok (.any [⟨"java", "method", [("name", "f(a, 'b') AND g"), ("x", "=)")]⟩,
        ⟨"and", "or", [("name", "*.xml")]⟩]) :=
  (parse_written sampleCondition).2.1 .or (by decide) (by decide)

end Uplift.Condition
