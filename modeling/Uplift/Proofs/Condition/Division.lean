import Uplift.Proofs.Condition.Cutting

/-!
# Where a condition is divided

A condition is divided at a connective outside quotes and parentheses, as they are counted from its
beginning (`Divides`). The places depend on the text only, and not on how it is read, so every text
has exactly one list of the parts between them (`existsUnique_parts`).
-/

namespace Uplift.Condition

open Text

/-! ## Quotes and parentheses -/

/-- The quotation mark that is open after one more character. -/
def quoteStep (quote : Option Char) (c : Char) : Option Char :=
  match quote with
  | some mark => if c = mark then none else some mark
  | none => if isQuote c then some c else none

/-- The quotation mark that is open after a text. -/
def quoteAfter (s : List Char) : Option Char := s.foldl quoteStep none

/-- The characters outside quotes, of a text before which a quotation mark may be open. -/
def bareFrom (quote : Option Char) : List Char → List Char
  | [] => []
  | c :: s =>
    (if quote = none ∧ isQuote c = false then [c] else []) ++ bareFrom (quoteStep quote c) s

/-- The parentheses that a text opens outside quotes, less those that it closes there. -/
def nesting (s : List Char) : ℤ := (bareFrom none s).count '(' - (bareFrom none s).count ')'

/-- Outside quotes, every parenthesis that is closed was opened before, and all are closed. -/
structure Balanced (s : List Char) : Prop where
  opened : ∀ front, front <+: s → 0 ≤ nesting front
  closed : nesting s = 0

variable {s before rest after sep : List Char} {c : Char} {quote quote' : Option Char}
  {depth depth' : ℕ} {word word' : Connective}

theorem quoteAfter_concat : quoteAfter (s ++ [c]) = quoteStep (quoteAfter s) c := by
  simp [quoteAfter]

theorem bareFrom_append (a b : List Char) :
    bareFrom quote (a ++ b) = bareFrom quote a ++ bareFrom (a.foldl quoteStep quote) b := by
  induction a generalizing quote with
  | nil => rfl
  | cons c a ih => simp [bareFrom, ih]

/-- What a character adds to the parentheses that are open. -/
theorem nesting_concat : nesting (s ++ [c]) = nesting s +
    if quoteAfter s = none then (if c = '(' then 1 else if c = ')' then -1 else 0) else 0 := by
  rw [nesting, bareFrom_append, ← quoteAfter, nesting]
  by_cases outside : quoteAfter s = none
  · by_cases opens : c = '('
    · subst opens
      simp [bareFrom, outside, isQuote]
      omega
    · by_cases closes : c = ')'
      · subst closes
        simp [bareFrom, outside, isQuote]
        omega
      · by_cases mark : isQuote c = true <;> simp [bareFrom, outside, mark, opens, closes]
  · simp [bareFrom, outside]

/-- No parenthesis was closed too early in a text. After it the quotation mark `quote` is open, and
as many parentheses as `depth` says. -/
structure Reached (before : List Char) (quote : Option Char) (depth : ℕ) : Prop where
  quote_eq : quoteAfter before = quote
  depth_eq : nesting before = depth
  opened : ∀ front, front <+: before → 0 ≤ nesting front

theorem Reached.start : Reached [] none 0 where
  quote_eq := rfl
  depth_eq := rfl
  opened front isFront := by
    obtain rfl := List.prefix_nil.mp isFront
    decide

theorem Reached.balanced (reached : Reached s quote 0) : Balanced s where
  opened := reached.opened
  closed := reached.depth_eq

theorem Reached.concat (reached : Reached before quote depth) (next : quoteStep quote c = quote')
    (level : nesting (before ++ [c]) = depth') : Reached (before ++ [c]) quote' depth' where
  quote_eq := by rw [quoteAfter_concat, reached.quote_eq, next]
  depth_eq := level
  opened front isFront := by
    rcases List.prefix_concat_iff.mp isFront with rfl | earlier
    · omega
    · exact reached.opened front earlier

/-- Plain characters outside quotes change nothing. -/
theorem Reached.plain (reached : Reached before none depth) (plain : ∀ c ∈ s, isPlain c = true) :
    Reached (before ++ s) none depth := by
  induction s generalizing before with
  | nil => simpa using reached
  | cons c s ih =>
    obtain ⟨notMark, notOpen, notClose⟩ := isPlain_iff.mp (plain c List.mem_cons_self)
    have level : nesting (before ++ [c]) = depth := by
      rw [nesting_concat, reached.depth_eq]
      simp [notOpen, notClose]
    have next : Reached (before ++ [c]) none depth :=
      reached.concat (by simp [quoteStep, notMark]) level
    simpa using ih next fun d member => plain d (List.mem_cons_of_mem c member)

/-! ## Dividing places -/

/-- A connective divides a text here: it is outside quotes and parentheses, with a blank before it,
which belongs to it, and a blank after it. -/
structure Divides (before sep after : List Char) (word : Connective) : Prop where
  outsideQuotes : quoteAfter before = none
  outsideParentheses : nesting before = 0
  spelled : ∃ b letters, sep = b :: letters ∧ isBlank b = true ∧
    letters.map Char.toLower = word.word
  ends : ∃ b rest, after = b :: rest ∧ isBlank b = true

/-- A connective is recognised at the blank before it. -/
theorem Divides.connective?_eq (divides : Divides before sep after word)
    (text : c :: rest = sep ++ after) :
    isBlank c = true ∧ connective? rest = some (word, after) := by
  obtain ⟨b, letters, rfl, blank, spelled⟩ := divides.spelled
  obtain ⟨rfl, rfl⟩ := List.cons.inj text
  exact ⟨blank, connective?_eq_some_iff.mpr ⟨⟨letters, rfl, spelled⟩, divides.ends⟩⟩

theorem divides_of_connective? (outside : quoteAfter before = none) (level : nesting before = 0)
    (blank : isBlank c = true) (found : connective? rest = some (word, after)) :
    ∃ sep, c :: rest = sep ++ after ∧ Divides before sep after word := by
  obtain ⟨⟨letters, rfl, spelled⟩, ends⟩ := connective?_eq_some_iff.mp found
  exact ⟨c :: letters, rfl, outside, level, ⟨c, letters, rfl, blank, spelled⟩, ends⟩

/-- One connective at most is at a place. -/
theorem Divides.unique {sep' after' : List Char} (divides : Divides before sep after word)
    (divides' : Divides before sep' after' word') (same : sep ++ after = sep' ++ after') :
    sep = sep' ∧ after = after' ∧ word = word' := by
  obtain ⟨b, letters, isSep, -, -⟩ := divides.spelled
  have text : b :: (letters ++ after) = sep ++ after := by rw [isSep, List.cons_append]
  have found := (divides.connective?_eq text).2
  have found' := (divides'.connective?_eq (text.trans same)).2
  obtain ⟨rfl, rfl⟩ := Prod.mk.inj (Option.some.inj (found.symm.trans found'))
  exact ⟨List.append_cancel_right same, rfl, rfl⟩

/-- A connective is a blank and letters. -/
theorem Divides.letters (divides : Divides before sep after word) :
    ∃ b d letters, sep = b :: d :: letters ∧ isBlank b = true ∧
      ∀ x ∈ d :: letters, x.isAlpha = true := by
  obtain ⟨b, letters, rfl, blank, spelled⟩ := divides.spelled
  cases letters with
  | nil => cases word <;> cases spelled
  | cons d letters => exact ⟨b, d, letters, rfl, blank, isAlpha_of_spelled spelled⟩

/-- No connective begins within another. -/
theorem Divides.apart {before' sep' after' front : List Char}
    (divides : Divides before sep after word) (divides' : Divides before' sep' after' word')
    (split : sep ++ after = front ++ (sep' ++ after')) :
    front = [] ∨ ∃ between, front = sep ++ between ∧ after = between ++ (sep' ++ after') := by
  rcases List.append_eq_append_iff.mp split with ⟨between, isFront, behind⟩ | ⟨x, isSep, behind⟩
  · exact .inr ⟨between, isFront, behind⟩
  cases front with
  | nil => exact .inl rfl
  | cons e front =>
    cases x with
    | nil => exact .inr ⟨[], by simpa using isSep.symm, by simpa using behind.symm⟩
    | cons b x =>
      -- The other would begin with a letter of the first, and not with a blank.
      obtain ⟨_, d, letters, spelled, -, each⟩ := divides.letters
      obtain ⟨b', _, _, rfl, blank, -⟩ := divides'.letters
      obtain rfl : b' = b := (List.cons.inj behind).1
      have among : b' ∈ d :: letters := by
        rw [(List.cons.inj (spelled.symm.trans isSep)).2]
        simp
      cases (each b' among).symm.trans (isAlpha_of_isBlank blank)

/-- What follows a connective is shorter. -/
theorem Divides.length_lt (divides : Divides before sep after word) :
    after.length < (sep ++ after).length := by
  obtain ⟨b, letters, rfl, -⟩ := divides.spelled
  simp

/-- A connective leads into no quote and no parenthesis. -/
theorem Divides.reached (divides : Divides before sep after word)
    (reached : Reached before quote depth) : Reached (before ++ sep) none 0 := by
  obtain rfl := reached.quote_eq.symm.trans divides.outsideQuotes
  have outside : depth = 0 := by
    have level := reached.depth_eq.symm.trans divides.outsideParentheses
    omega
  subst outside
  obtain ⟨b, d, letters, rfl, blank, each⟩ := divides.letters
  refine reached.plain fun x member => ?_
  rcases List.mem_cons.mp member with rfl | letter
  · exact isPlain_of_isBlank blank
  · exact isPlain_of_isAlpha (each x letter)

/-! ## The parts of a text -/

/-- A connective, and the term after it. -/
structure Part where
  word : Connective
  sep : List Char
  term : List Char

/-- The text of a connective and a term. -/
def Part.text (o : Part) : List Char := o.sep ++ o.term

/-- A text is divided into a first term and others, at all places of it where a connective divides
it. What stands `before` the text tells which places are outside quotes and parentheses. -/
structure Parts (before s first : List Char) (others : List Part) : Prop where
  /-- The parts are the whole text. -/
  text : s = first ++ others.flatMap Part.text
  /-- Between the terms there are connectives. -/
  divides : ∀ l o r, others = l ++ o :: r →
    Divides (before ++ (first ++ l.flatMap Part.text)) o.sep (o.term ++ r.flatMap Part.text) o.word
  /-- There are no others. -/
  complete : ∀ front sep after word, s = front ++ (sep ++ after) →
    Divides (before ++ front) sep after word →
    ∃ l o r, others = l ++ o :: r ∧ front = first ++ l.flatMap Part.text ∧
      sep = o.sep ∧ word = o.word

variable {first first' : List Char} {others others' : List Part}

theorem Parts.nil : Parts before [] [] [] where
  text := rfl
  divides l o r split := by simp at split
  complete front sep after word split divides := by
    obtain ⟨b, rest, rfl, -⟩ := divides.ends
    simp at split

/-- A character at which no connective divides the text belongs to a term. -/
theorem Parts.keep
    (noPlace : ∀ sep after word, c :: rest = sep ++ after → ¬ Divides before sep after word)
    (parts : Parts (before ++ [c]) rest first others) :
    Parts before (c :: rest) (c :: first) others where
  text := by rw [List.cons_append, ← parts.text]
  divides l o r split := by simpa using parts.divides l o r split
  complete front sep after word split divides := by
    cases front with
    | nil => exact absurd (by simpa using divides) (noPlace sep after word split)
    | cons d front =>
      obtain ⟨rfl, behind⟩ := List.cons.inj split
      obtain ⟨l, o, r, inOthers, rfl, same⟩ :=
        parts.complete front sep after word behind (by simpa using divides)
      exact ⟨l, o, r, inOthers, rfl, same⟩

/-- At a connective a new term begins. -/
theorem Parts.divide (place : Divides before sep rest word)
    (parts : Parts (before ++ sep) rest first others) :
    Parts before (sep ++ rest) [] (⟨word, sep, first⟩ :: others) where
  text := by
    rw [List.nil_append, List.flatMap_cons, Part.text, List.append_assoc, ← parts.text]
  divides l o r split := by
    cases l with
    | nil =>
      obtain ⟨rfl, rfl⟩ := List.cons.inj split
      rw [← parts.text]
      simpa using place
    | cons p l =>
      obtain ⟨rfl, behind⟩ := List.cons.inj split
      simpa [Part.text] using parts.divides l o r behind
  complete front sep' after word' split divides := by
    rcases place.apart divides split with rfl | ⟨between, rfl, behind⟩
    · rw [List.append_nil] at divides
      obtain ⟨rfl, -, rfl⟩ := place.unique divides split
      exact ⟨[], _, others, rfl, rfl, rfl, rfl⟩
    · obtain ⟨l, o, r, rfl, rfl, same⟩ :=
        parts.complete between sep' after word' behind (by simpa using divides)
      exact ⟨⟨word, sep, first⟩ :: l, o, r, rfl, by simp [Part.text], same⟩

/-- Every text has parts. -/
theorem exists_parts (before s : List Char) : ∃ first others, Parts before s first others := by
  induction size : s.length using Nat.strongRecOn generalizing before s with
  | ind n shorter =>
    cases s with
    | nil => exact ⟨[], [], .nil⟩
    | cons c rest =>
      by_cases place : ∃ sep after word, c :: rest = sep ++ after ∧ Divides before sep after word
      · obtain ⟨sep, after, word, split, divides⟩ := place
        have less : after.length < n := by
          rw [← size, split]
          exact divides.length_lt
        obtain ⟨first, others, parts⟩ := shorter _ less (before ++ sep) after rfl
        rw [split]
        exact ⟨_, _, parts.divide divides⟩
      · have noPlace : ∀ sep after word, c :: rest = sep ++ after →
            ¬ Divides before sep after word :=
          fun sep after word split divides => place ⟨sep, after, word, split, divides⟩
        have less : rest.length < n := by
          rw [← size, List.length_cons]
          omega
        obtain ⟨first, others, parts⟩ := shorter _ less (before ++ [c]) rest rfl
        exact ⟨_, _, parts.keep noPlace⟩

theorem Parts.head {o : Part} (parts : Parts before s first (o :: others)) :
    Divides (before ++ first) o.sep (o.term ++ others.flatMap Part.text) o.word := by
  simpa using parts.divides [] o others rfl

/-- What follows a connective has the other parts. -/
theorem Parts.tail {o : Part} (parts : Parts before s first (o :: others)) :
    Parts (before ++ (first ++ o.sep)) (o.term ++ others.flatMap Part.text) o.term others where
  text := rfl
  divides l p r split := by
    simpa [Part.text] using parts.divides (o :: l) p r (congrArg (o :: ·) split)
  complete front sep after word split divides := by
    have whole : s = first ++ (o.sep ++ front) ++ (sep ++ after) := by
      rw [parts.text, List.flatMap_cons, Part.text, List.append_assoc o.sep, split]
      simp
    obtain ⟨l, p, r, inOthers, place, same⟩ :=
      parts.complete (first ++ (o.sep ++ front)) sep after word whole (by simpa using divides)
    obtain ⟨b, d, letters, isSep, -⟩ := parts.head.letters
    cases l with
    | nil => simp [isSep] at place
    | cons o' l =>
      obtain ⟨rfl, rest⟩ := List.cons.inj inOthers
      have behind : front = o.term ++ l.flatMap Part.text := by simpa [Part.text] using place
      exact ⟨l, p, r, rest, behind, same⟩

/-- The first term ends where the first connective is. -/
theorem Parts.first_prefix (parts : Parts before s first others)
    (parts' : Parts before s first' others') : first <+: first' := by
  cases others' with
  | nil =>
    have whole : s = first' := by simpa using parts'.text
    rw [← whole, parts.text]
    exact List.prefix_append _ _
  | cons o others' =>
    obtain ⟨l, p, r, -, place, -⟩ :=
      parts.complete first' o.sep _ o.word (by simpa [Part.text] using parts'.text) parts'.head
    rw [place]
    exact List.prefix_append _ _

theorem Parts.unique (parts : Parts before s first others)
    (parts' : Parts before s first' others') : first = first' ∧ others = others' := by
  induction others generalizing before s first first' others' with
  | nil =>
    cases others' with
    | nil => exact ⟨by simpa using parts.text.symm.trans parts'.text, rfl⟩
    | cons o' others' =>
      obtain ⟨l, p, r, noOther, -⟩ :=
        parts.complete first' o'.sep _ o'.word (by simpa [Part.text] using parts'.text) parts'.head
      simp at noOther
  | cons o others ih =>
    cases others' with
    | nil =>
      obtain ⟨l, p, r, noOther, -⟩ :=
        parts'.complete first o.sep _ o.word (by simpa [Part.text] using parts.text) parts.head
      simp at noOther
    | cons o' others' =>
      obtain rfl : first = first' :=
        (parts.first_prefix parts').eq_of_length_le (parts'.first_prefix parts).length_le
      have behind : o.sep ++ (o.term ++ others.flatMap Part.text) =
          o'.sep ++ (o'.term ++ others'.flatMap Part.text) := by
        simpa [Part.text] using parts.text.symm.trans parts'.text
      obtain ⟨sameSep, sameRest, sameWord⟩ := parts.head.unique parts'.head behind
      have tail' := parts'.tail
      rw [← sameSep, ← sameRest] at tail'
      obtain ⟨sameTerm, rfl⟩ := ih parts.tail tail'
      have same : o = o' := by
        cases o
        cases o'
        simp_all
      rw [same]
      exact ⟨rfl, rfl⟩

/-- Every text has exactly one list of parts. -/
theorem existsUnique_parts (s : List Char) :
    ∃! found : List Char × List Part, Parts [] s found.1 found.2 := by
  obtain ⟨first, others, parts⟩ := exists_parts [] s
  refine ⟨(first, others), parts, fun other parts' => ?_⟩
  obtain ⟨same, same'⟩ := parts'.unique parts
  exact Prod.ext same same'

/-- A connective divides the text somewhere. -/
def DividedBy (before s : List Char) (word : Connective) : Prop :=
  ∃ front sep after, s = front ++ (sep ++ after) ∧ Divides (before ++ front) sep after word

theorem DividedBy.append {a : List Char} (divided : DividedBy (before ++ a) s word) :
    DividedBy before (a ++ s) word := by
  obtain ⟨front, sep, after, rfl, divides⟩ := divided
  exact ⟨a ++ front, sep, after, by simp, by simpa using divides⟩

theorem Parts.mem_of_dividedBy (parts : Parts before s first others)
    (divided : DividedBy before s word) : ∃ o ∈ others, o.word = word := by
  obtain ⟨front, sep, after, split, divides⟩ := divided
  obtain ⟨l, o, r, rfl, -, -, rfl⟩ := parts.complete front sep after word split divides
  exact ⟨o, by simp, rfl⟩

end Uplift.Condition
