import Uplift.Proofs.Condition.Cutting
import Uplift.Proofs.Except
import Uplift.Proofs.Text.Trim

/-!
# The shape of what is read

A condition on all or any of several queries has two queries at least (`two_le_of_parse`): a
connective that is found has a term on either side. A text without a connective is one term
(`term_of_parse`).
-/

namespace Uplift.Condition

open Text

/-- There is a term, and there are two if a connective was found on the way. -/
theorem cutFrom_length {quote : Option Char} {depth : Nat} {found : Option Connective}
    {term s : List Char} {cut : Cut} (h : cutFrom quote depth found term s = .ok cut) :
    cut.terms ≠ [] ∧ (cut.connective ≠ found → 2 ≤ cut.terms.length) := by
  fun_induction cutFrom quote depth found term s generalizing cut with
  | case3 =>
    obtain rfl := Except.ok.inj h
    simp
  -- At a connective: the term before it is one, and there is one after it.
  | case10 depth found term c rest _ _ _ _ word after _ _ ih =>
    cases inner : cutFrom none 0 (some word) [] after with
    | error e => rw [inner] at h; cases h
    | ok rest =>
      rw [inner] at h
      obtain rfl := Except.ok.inj h
      have more := List.length_pos_of_ne_nil (ih inner).1
      simp only [ne_eq, List.cons_ne_nil, not_false_eq_true, List.length_cons, true_and]
      omega
  | _ => simp_all

/-- If no connective is found, the text is one term. -/
theorem cutFrom_alone {quote : Option Char} {depth : Nat} {found : Option Connective}
    {term s : List Char} {cut : Cut} (h : cutFrom quote depth found term s = .ok cut)
    (alone : cut.connective = none) : found = none ∧ cut.terms = [term.reverse ++ s] := by
  fun_induction cutFrom quote depth found term s generalizing cut with
  | case3 =>
    obtain rfl := Except.ok.inj h
    exact ⟨alone, by simp⟩
  -- A connective that is found stays found.
  | case10 depth found term c rest _ _ _ _ word after _ _ ih =>
    cases inner : cutFrom none 0 (some word) [] after with
    | error e => rw [inner] at h; cases h
    | ok rest =>
      rw [inner] at h
      obtain rfl := Except.ok.inj h
      cases (ih inner alone).1
  | _ => simp_all

/-- The terms are what the cutter gives, if none of them is blank. -/
theorem cutFrom_of_terms {s : List Char} {cut : Cut} (h : terms s = .ok cut) :
    cutFrom none 0 none [] s = .ok cut := by
  obtain ⟨cut', run, kept⟩ := bind_eq_ok_iff.mp h
  split at kept
  · cases kept
  · rw [run, Except.ok.inj kept]

/-- No term is blank. -/
theorem filled_of_terms {s : List Char} {cut : Cut} (h : terms s = .ok cut) :
    ∀ text ∈ cut.terms, isBlankText text = false := by
  obtain ⟨cut', run, kept⟩ := bind_eq_ok_iff.mp h
  split at kept
  · cases kept
  · next filled =>
    obtain rfl := Except.ok.inj kept
    simpa using filled

/-- What follows a connective stands at the end of the text. -/
theorem connective?_suffix {s rest : List Char} {word : Connective}
    (found : connective? s = some (word, rest)) : rest <:+ s := by
  obtain ⟨⟨letters, rfl, -⟩, -⟩ := connective?_eq_some_iff.mp found
  exact List.suffix_append _ _

theorem cutFrom_within {quote : Option Char} {depth : Nat} {found : Option Connective}
    {term s : List Char} {cut : Cut} (run : cutFrom quote depth found term s = .ok cut)
    {text : List Char} (member : text ∈ cut.terms) : text <:+: term.reverse ++ s := by
  fun_induction cutFrom quote depth found term s generalizing cut with
  | case3 =>
    obtain rfl := Except.ok.inj run
    obtain rfl := List.mem_singleton.mp member
    simp
  -- At a connective: the term before it, or one of those after it.
  | case10 depth found term c rest _ _ _ _ word after isWord _ ih =>
    obtain ⟨later, inner, same⟩ := bind_eq_ok_iff.mp run
    obtain rfl := Except.ok.inj same
    rcases List.mem_cons.mp member with rfl | behind
    · exact (List.prefix_append _ _).isInfix
    · have stands : text <:+: after := by simpa using ih inner behind
      have ends : after <:+ c :: rest :=
        (connective?_suffix isWord).trans (List.suffix_cons _ _)
      exact stands.trans (ends.trans (List.suffix_append _ _)).isInfix
  | _ => simp_all

/-- A term stands in the condition. -/
theorem terms_within {s text : List Char} {cut : Cut} (read : terms s = .ok cut)
    (member : text ∈ cut.terms) : text <:+: s :=
  cutFrom_within (cutFrom_of_terms read) member

theorem parse_eq_ok_iff {input : String} {c : Condition} :
    parse input = .ok c ↔ read input.toList = .ok c := by
  rw [parse]
  cases read input.toList with
  | error cause => simp
  | ok c' => simp

/-- What follows the head of a term stands at its end. -/
theorem splitBlank_suffix {s word rest : List Char} (cut : splitBlank s = some (word, rest)) :
    rest <:+ s := by
  rw [splitBlank, List.span_eq_takeWhile_dropWhile] at cut
  have suffix : s.dropWhile (!isBlank ·) <:+ s := List.dropWhile_suffix _
  split at cut
  · next c _ same =>
    obtain ⟨-, left⟩ := Prod.mk.inj same
    obtain ⟨-, rfl⟩ := Prod.mk.inj (Option.some.inj cut)
    exact (List.suffix_cons c _).trans (left ▸ suffix)
  · cases cut

/-- What follows the word `is` stands at the end of the text. -/
theorem afterIs?_suffix {s rest : List Char} (isWord : afterIs? s = some rest) : rest <:+ s := by
  obtain ⟨rest', stripped, kept⟩ := Option.bind_eq_some_iff.mp isWord
  obtain ⟨c, -, kept⟩ := Option.bind_eq_some_iff.mp kept
  split at kept
  · obtain rfl := Option.some.inj kept
    rcases Option.or_eq_some_iff.mp stripped with lower | ⟨-, upper⟩
    · exact strip?_suffix lower
    · exact strip?_suffix upper
  · cases kept

/-- A term is a head, the word `is`, and a list in parentheses or one value. -/
theorem exists_of_term {text : List Char} {q : Query} (read : term text = .ok q) :
    ∃ front rest kind symbol arguments params,
      splitBlank (trim text) = some (front, rest) ∧ head front = .ok (kind, symbol) ∧
      afterIs? (trimStart rest) = some arguments ∧
      q = (Query.of (String.ofList kind) (String.ofList symbol)).setAll params ∧
      match enclosed? '(' ')' (trim arguments) with
      | some inner => paramList inner = .ok params
      | none => ∃ v, unquote arguments = .ok v ∧ params = [(nameParam, String.ofList v)] := by
  simp only [term] at read
  split at read
  · next front rest cut =>
    obtain ⟨⟨kind, symbol⟩, headRead, readRest⟩ := bind_eq_ok_iff.mp read
    dsimp only at readRest
    split at readRest
    · next arguments isWord =>
      refine ⟨front, rest, kind, symbol, arguments, ?_⟩
      cases between : enclosed? '(' ')' (trim arguments) with
      | some inner =>
        rw [between] at readRest
        obtain ⟨params, list, result⟩ := bind_eq_ok_iff.mp readRest
        exact ⟨params, cut, headRead, isWord, (Except.ok.inj result).symm, list⟩
      | none =>
        rw [between] at readRest
        obtain ⟨v, value, result⟩ := bind_eq_ok_iff.mp readRest
        have same := (Except.ok.inj result).symm
        exact ⟨[(nameParam, String.ofList v)], cut, headRead, isWord, same, v, value, rfl⟩
    · cases readRest
  · cases read

/-- The queries of a condition are read from its terms, one from each. -/
theorem exists_cut_of_read {s : List Char} {c : Condition} (h : read s = .ok c) :
    ∃ cut, terms s = .ok cut ∧ List.Forall₂ (fun text q => term text = .ok q) cut.terms c.queries ∧
      match cut.connective with
      | some word => c = word.join c.queries
      | none => ∃ q, c = .one q := by
  obtain ⟨cut, cutRead, rest⟩ := bind_eq_ok_iff.mp h
  obtain ⟨queries, parsed, result⟩ := bind_eq_ok_iff.mp rest
  have each := mapM_eq_ok_iff.mp parsed
  refine ⟨cut, cutRead, ?_⟩
  cases found : cut.connective with
  | some word =>
    rw [found] at result
    obtain rfl := Except.ok.inj result
    cases word <;> exact ⟨each, rfl⟩
  | none =>
    have alone := (cutFrom_alone (cutFrom_of_terms cutRead) found).2
    rw [found] at result
    rw [alone] at each ⊢
    obtain ⟨q, others, first, none, rfl⟩ := List.forall₂_cons_left_iff.mp each
    obtain rfl := List.forall₂_nil_left_iff.mp none
    obtain rfl := Except.ok.inj result
    exact ⟨each, q, rfl⟩

/-- One query is read as itself, and two or more are joined. -/
theorem read_shape {s : List Char} {c : Condition} (h : read s = .ok c) :
    (∃ q, c = .one q) ∨ ∃ (word : Connective) (queries : List Query),
      c = word.join queries ∧ 2 ≤ queries.length := by
  obtain ⟨cut, cutRead, each, shape⟩ := exists_cut_of_read h
  cases found : cut.connective with
  | some word =>
    rw [found] at shape
    refine .inr ⟨word, c.queries, shape, ?_⟩
    rw [← each.length_eq]
    exact (cutFrom_length (cutFrom_of_terms cutRead)).2 (by simp [found])
  | none =>
    rw [found] at shape
    exact .inl shape

/-- A text that is read as one query is one term. -/
theorem term_of_parse {input : String} {q : Query} (h : parse input = .ok (.one q)) :
    term input.toList = .ok q := by
  obtain ⟨cut, cutRead, each, shape⟩ := exists_cut_of_read (parse_eq_ok_iff.mp h)
  cases found : cut.connective with
  | some word =>
    rw [found] at shape
    cases word <;> cases shape
  | none =>
    rw [(cutFrom_alone (cutFrom_of_terms cutRead) found).2] at each
    exact (List.forall₂_cons.mp each).1

end Uplift.Condition
