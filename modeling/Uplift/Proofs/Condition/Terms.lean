import Uplift.Proofs.Condition.Division
import Uplift.Proofs.Condition.Shape

/-!
# The terms of a condition

What the cutter does at one character (`advance`) tells what it does on a text: if it comes to an
end, it has found the parts of the text and the same connective everywhere (`parts_of_cutFrom`), and
if it stops, the text has a fault there (`fault_of_cutFrom`). So a text is cut into its parts, with
nothing lost, unless it has a fault of one of four kinds (`terms_parts`).
-/

namespace Uplift.Condition

open Text

variable {s before rest after : List Char} {c : Char} {quote : Option Char} {depth : ℕ}
  {word : Connective} {found : Option Connective} {term : List Char} {cut : Cut}
  {fault : SyntaxFault}

/-! ## What the cutter does -/

/-- What the cutter does at a character. -/
inductive Advance (before : List Char) (quote : Option Char) (depth : ℕ)
    (found : Option Connective) (term : List Char) (c : Char) (rest : List Char) : Prop
  /-- The character belongs to the current term. -/
  | take {quote' : Option Char} {depth' : ℕ} : Reached (before ++ [c]) quote' depth' →
      (∀ sep after word, c :: rest = sep ++ after → ¬ Divides before sep after word) →
      cutFrom quote depth found term (c :: rest) = cutFrom quote' depth' found (c :: term) rest →
      Advance before quote depth found term c rest
  /-- The character closes a parenthesis that is not open. -/
  | unopened : nesting (before ++ [c]) < 0 →
      cutFrom quote depth found term (c :: rest) = .error .unopenedParenthesis →
      Advance before quote depth found term c rest
  /-- A connective divides the text, and it is not the one met before. -/
  | mix {sep after : List Char} {word met : Connective} : c :: rest = sep ++ after →
      Divides before sep after word → found = some met → met ≠ word →
      cutFrom quote depth found term (c :: rest) = .error .mixedConnectives →
      Advance before quote depth found term c rest
  /-- The current term ends, at the first connective or at one that is the same as before. -/
  | divide {sep after : List Char} {word : Connective} : c :: rest = sep ++ after →
      Divides before sep after word → found = none ∨ found = some word →
      cutFrom quote depth found term (c :: rest) =
        (cutFrom none 0 (some word) [] after).map (fun cut =>
          { cut with terms := term.reverse :: cut.terms }) →
      Advance before quote depth found term c rest

theorem advance (found : Option Connective) (term : List Char) (c : Char) (rest : List Char)
    (reached : Reached before quote depth) : Advance before quote depth found term c rest := by
  cases quote with
  | some mark =>
    have inside : quoteAfter before ≠ none := by simp [reached.quote_eq]
    have level : nesting (before ++ [c]) = depth := by
      rw [nesting_concat, if_neg inside, add_zero, reached.depth_eq]
    exact .take (reached.concat rfl level)
      (fun sep after word _ divides => inside divides.outsideQuotes) cutFrom_some
  | none =>
    have outside := reached.quote_eq
    have level := reached.depth_eq
    have noPlace (special : isPlain c = false) : ∀ sep after word, c :: rest = sep ++ after →
        ¬ Divides before sep after word := by
      intro sep after word split divides
      rw [isPlain_of_isBlank (divides.connective?_eq split).1] at special
      cases special
    have step := nesting_concat (s := before) (c := c)
    rw [if_pos outside, level] at step
    by_cases mark : isQuote c = true
    · have special : isPlain c = false := by simp [isPlain, mark]
      have still : nesting (before ++ [c]) = depth := by
        rcases isQuote_iff.mp mark with rfl | rfl <;> simpa using step
      exact .take (reached.concat (by simp [quoteStep, mark]) still) (noPlace special)
        (cutFrom_mark mark)
    rw [Bool.not_eq_true] at mark
    have bare : quoteStep none c = none := by simp [quoteStep, mark]
    by_cases opens : c = '('
    · subst opens
      exact .take (reached.concat bare (by simpa using step)) (noPlace (by decide)) cutFrom_open
    by_cases closes : c = ')'
    · subst closes
      cases depth with
      | zero =>
        have negative : nesting (before ++ [')']) < 0 := by simp [step]
        exact .unopened negative (by rw [cutFrom.eq_def]; simp [isQuote])
      | succ depth =>
        exact .take (reached.concat bare (by simpa using step)) (noPlace (by decide)) cutFrom_close
    rw [if_neg opens, if_neg closes, add_zero] at step
    by_cases place : ∃ sep after word, c :: rest = sep ++ after ∧ Divides before sep after word
    · obtain ⟨sep, after, word, split, divides⟩ := place
      obtain ⟨blank, isWord⟩ := divides.connective?_eq split
      have top : depth = 0 := by
        have levelHere := divides.outsideParentheses
        omega
      subst top
      have step : cutFrom none 0 found term (c :: rest) = _ := cutFrom_connective blank isWord
      cases found with
      | none => exact .divide split divides (.inl rfl) (by simpa using step)
      | some met =>
        by_cases same : met = word
        · exact .divide split divides (.inr (congrArg some same)) (by simpa [same] using step)
        · exact .mix split divides rfl same (by simpa [same] using step)
    · refine .take (reached.concat bare step)
        (fun sep after word split divides => place ⟨sep, after, word, split, divides⟩)
        (cutFrom_plain mark opens closes fun blank top => ?_)
      by_contra isWord
      obtain ⟨⟨word, after⟩, isWord⟩ := Option.ne_none_iff_exists'.mp isWord
      obtain ⟨sep, split, divides⟩ :=
        divides_of_connective? outside (by rw [level, top]; rfl) blank isWord
      exact place ⟨sep, after, word, split, divides⟩

/-- The cutter that comes to an end has found the parts of the text, and the same connective
everywhere. -/
theorem parts_of_cutFrom (reached : Reached before quote depth)
    (run : cutFrom quote depth found term rest = .ok cut) :
    Reached (before ++ rest) none 0 ∧ ∃ first others, Parts before rest first others ∧
      cut.terms = (term.reverse ++ first) :: others.map Part.term ∧
      (∀ o ∈ others, cut.connective = some o.word) ∧
      (found ≠ none ∨ others = [] → cut.connective = found) := by
  induction size : rest.length using Nat.strongRecOn
    generalizing before quote depth found term rest cut with
  | ind n shorter =>
    cases rest with
    | nil =>
      cases quote with
      | some mark =>
        rw [cutFrom.eq_def] at run
        simp at run
      | none =>
        cases depth with
        | succ depth =>
          rw [cutFrom.eq_def] at run
          simp at run
        | zero =>
          rw [cutFrom_nil] at run
          obtain rfl := Except.ok.inj run
          exact ⟨by simpa using reached, [], [], .nil, by simp⟩
    | cons c rest =>
      rw [List.length_cons] at size
      cases advance found term c rest reached with
      | take next noPlace step =>
        obtain ⟨ends, first, others, parts, areTerms, same⟩ :=
          shorter rest.length (by omega) next (step ▸ run) rfl
        refine ⟨by simpa using ends, _, others, parts.keep noPlace, ?_, same⟩
        simpa using areTerms
      | unopened _ step | mix _ _ _ _ step =>
        rw [step] at run
        cases run
      | @divide sep after word split divides met step =>
        rw [step] at run
        cases inner : cutFrom none 0 (some word) [] after with
        | error fault =>
          rw [inner] at run
          cases run
        | ok later =>
          rw [inner] at run
          obtain rfl := Except.ok.inj run
          have less : after.length < n := by
            rw [← size, ← List.length_cons, split]
            exact divides.length_lt
          obtain ⟨ends, first, others, parts, areTerms, same, stays⟩ :=
            shorter after.length less (divides.reached reached) inner rfl
          have isWord : later.connective = some word := stays (.inl (by simp))
          rw [split]
          refine ⟨by simpa using ends, [], _, parts.divide divides, by simp [areTerms],
            fun o member => ?_, fun before => ?_⟩
          · rcases List.mem_cons.mp member with rfl | member
            · exact isWord
            · exact same o member
          · rcases before with some' | none'
            · rw [met.resolve_left some']
              exact isWord
            · cases none'

/-- Where the cutter stops, there is a fault: a quote or a parenthesis that is not closed, a
parenthesis that was not opened, or a connective that is not the one met before. -/
theorem fault_of_cutFrom (reached : Reached before quote depth)
    (run : cutFrom quote depth found term rest = .error fault) :
    quoteAfter (before ++ rest) ≠ none ∨ ¬ Balanced (before ++ rest) ∨
      ∃ word word', word ≠ word' ∧ (found = some word ∨ DividedBy before rest word) ∧
        DividedBy before rest word' := by
  induction size : rest.length using Nat.strongRecOn
    generalizing before quote depth found term rest fault with
  | ind n shorter =>
    cases rest with
    | nil =>
      rw [List.append_nil]
      cases quote with
      | some mark => exact .inl (by simp [reached.quote_eq])
      | none =>
        cases depth with
        | zero =>
          rw [cutFrom_nil] at run
          cases run
        | succ depth =>
          refine .inr (.inl fun balanced => ?_)
          have level := reached.depth_eq.symm.trans balanced.closed
          omega
    | cons c rest =>
      rw [List.length_cons] at size
      cases advance found term c rest reached with
      | take next _ step =>
        have later := shorter rest.length (by omega) next (step ▸ run) rfl
        have same : before ++ [c] ++ rest = before ++ c :: rest := by simp
        rw [same] at later
        refine later.imp_right (Or.imp_right ?_)
        rintro ⟨word, word', differ, first, second⟩
        exact ⟨word, word', differ, first.imp_right DividedBy.append, second.append⟩
      | unopened negative =>
        refine .inr (.inl fun balanced => ?_)
        have level := balanced.opened (before ++ [c]) ⟨rest, by simp⟩
        omega
      | @mix sep after word met split divides isMet differ =>
        have here : DividedBy before (c :: rest) word :=
          ⟨[], sep, after, by simpa using split, by simpa using divides⟩
        exact .inr (.inr ⟨met, word, differ, .inl isMet, here⟩)
      | @divide sep after word split divides _ step =>
        have here : DividedBy before (c :: rest) word :=
          ⟨[], sep, after, by simpa using split, by simpa using divides⟩
        rw [step] at run
        cases inner : cutFrom none 0 (some word) [] after with
        | ok later =>
          rw [inner] at run
          cases run
        | error fault' =>
          have less : after.length < n := by
            rw [← size, ← List.length_cons, split]
            exact divides.length_lt
          have later := shorter after.length less (divides.reached reached) inner rfl
          rw [List.append_assoc, ← split] at later
          refine later.imp_right (Or.imp_right ?_)
          rintro ⟨first, second, differ, met | earlier, divided⟩
          · obtain rfl := Option.some.inj met
            exact ⟨word, second, differ, .inr here, split ▸ divided.append⟩
          · exact ⟨first, second, differ, .inr (split ▸ earlier.append), split ▸ divided.append⟩

/-! ## Terms -/

/-- A term of the text is blank. -/
def HasBlankTerm (s : List Char) : Prop :=
  ∃ first others, Parts [] s first others ∧
    ∃ t ∈ first :: others.map Part.term, isBlankText t = true

/-- Different connectives divide the text. -/
def Mixed (s : List Char) : Prop :=
  ∃ word word', word ≠ word' ∧ DividedBy [] s word ∧ DividedBy [] s word'

/-- A cut has the parts of a text. -/
structure Cuts (cut : Cut) (s first : List Char) (others : List Part) : Prop where
  /-- Its terms and the connectives between them are the text, and each connective that divides the
  text is between two of them. -/
  parts : Parts [] s first others
  terms_eq : cut.terms = first :: others.map Part.term
  filled : ∀ t ∈ cut.terms, isBlankText t = false
  /-- Its connective is the one that divides the text everywhere, if any does. -/
  alone_iff : cut.connective = none ↔ others = []
  same : ∀ o ∈ others, cut.connective = some o.word

theorem cuts_of_terms (read : terms s = .ok cut) :
    quoteAfter s = none ∧ Balanced s ∧ ∃ first others, Cuts cut s first others := by
  obtain ⟨ends, first, others, parts, areTerms, same, stays⟩ :=
    parts_of_cutFrom .start (cutFrom_of_terms read)
  rw [List.nil_append] at ends
  refine ⟨ends.quote_eq, ends.balanced, first, others, parts, areTerms, filled_of_terms read, ?_,
    same⟩
  cases others with
  | nil => simp [stays (.inr rfl)]
  | cons o others => simp [same o List.mem_cons_self]

/-- A text that is not cut has a fault. -/
theorem fault_of_terms (failed : terms s = .error fault) :
    quoteAfter s ≠ none ∨ ¬ Balanced s ∨ HasBlankTerm s ∨ Mixed s := by
  rcases bind_eq_error_iff.mp failed with run | ⟨cut, run, refused⟩
  · refine (fault_of_cutFrom .start run).imp_right (Or.imp_right fun mixed => .inr ?_)
    obtain ⟨word, word', differ, met | divided, divided'⟩ := mixed
    · cases met
    · exact ⟨word, word', differ, divided, divided'⟩
  · obtain ⟨-, first, others, parts, areTerms, -⟩ := parts_of_cutFrom .start run
    split at refused
    · next blank =>
      rw [areTerms] at blank
      exact .inr (.inr (.inl ⟨first, others, parts, List.any_eq_true.mp blank⟩))
    · cases refused

/-- A text is cut into its parts, with nothing lost, unless a quote in it is not closed, its
parentheses are not balanced, a term is blank or both connectives divide it. -/
theorem terms_parts (s : List Char) :
    (∃! found : List Char × List Part, Parts [] s found.1 found.2) ∧
      (∀ cut, terms s = .ok cut → ∃ first others, Cuts cut s first others) ∧
      ((∃ fault, terms s = .error fault) ↔
        quoteAfter s ≠ none ∨ ¬ Balanced s ∨ HasBlankTerm s ∨ Mixed s) := by
  refine ⟨existsUnique_parts s, fun cut read => (cuts_of_terms read).2.2, ?_, fun faulty => ?_⟩
  · rintro ⟨fault, failed⟩
    exact fault_of_terms failed
  cases read : terms s with
  | error fault => exact ⟨fault, rfl⟩
  | ok cut =>
    -- What was cut has none of the faults.
    obtain ⟨closed, balanced, first, others, cuts⟩ := cuts_of_terms read
    rcases faulty with unclosed | unbalanced | ⟨first', others', parts, t, member, blank⟩ |
      ⟨word, word', differ, divided, divided'⟩
    · exact absurd closed unclosed
    · exact absurd balanced unbalanced
    · obtain ⟨rfl, rfl⟩ := parts.unique cuts.parts
      cases (cuts.filled t (cuts.terms_eq ▸ member)).symm.trans blank
    · obtain ⟨o, member, rfl⟩ := cuts.parts.mem_of_dividedBy divided
      obtain ⟨o', member', rfl⟩ := cuts.parts.mem_of_dividedBy divided'
      have both := (cuts.same o member).symm.trans (cuts.same o' member')
      exact absurd (Option.some.inj both) differ

/-- A connective in quotes divides nothing, and a quote that is not closed is a fault. -/
theorem terms_parts_sample :
    (∃ first others,
      Cuts ⟨some .or, ["a' and 'b".toList, " c".toList]⟩ "a' and 'b oR c".toList first others) ∧
      ∃ fault, terms "a and 'b".toList = .error fault :=
  ⟨(terms_parts _).2.1 _ (by cbv), (terms_parts _).2.2.mpr (.inl (by decide))⟩

end Uplift.Condition
