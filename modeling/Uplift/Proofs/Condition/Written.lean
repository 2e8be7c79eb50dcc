import Uplift.Proofs.Condition.Cutting
import Uplift.Proofs.Text.Trim

/-!
# Conditions as they are written

Every way to write a condition down: which blanks stand where, which mark quotes a value, in which
letter case a connective is spelled. A written form carries the proofs that it is one, has a text
(`WrittenCondition.text`), and stands for a list of queries with connectives between them
(`WrittenCondition.queries`, `WrittenCondition.connectives`).

A text that can occur as a part of a longer one comes with the lemma that both cutters pass it.
-/

namespace Uplift.Condition

open Text

/-! ## Blanks, quoted texts, parameters -/

/-- Blanks, perhaps none. -/
structure Blanks where
  text : List Char := []
  blank : isBlankText text = true := by decide

/-- No blanks. -/
@[simp]
def Blanks.none : Blanks where

/-- One blank at least. -/
structure Gap extends Blanks where
  nonempty : text ≠ []

theorem Blanks.isBlank_of_mem (b : Blanks) {c : Char} (member : c ∈ b.text) : isBlank c = true :=
  List.all_eq_true.mp b.blank c member

/-- A gap begins with a blank. -/
theorem Gap.exists_cons (g : Gap) : ∃ c rest, g.text = c :: rest ∧ isBlank c = true := by
  obtain ⟨c, rest, same⟩ := List.exists_cons_of_ne_nil g.nonempty
  exact ⟨c, rest, same, g.isBlank_of_mem (by simp [same])⟩

/-- A text between two equal quotation marks which it does not contain. -/
structure QuotedText where
  mark : Char
  value : List Char
  isMark : isQuote mark = true
  fresh : mark ∉ value

/-- A text between single quotation marks. -/
def QuotedText.single (value : List Char) (fresh : '\'' ∉ value) : QuotedText :=
  ⟨'\'', value, rfl, fresh⟩

/-- The marks and what is between them. -/
def QuotedText.text (t : QuotedText) : List Char := t.mark :: (t.value ++ [t.mark])

/-- A character of a parameter's key. -/
def isKeyChar (c : Char) : Bool := c.isAlphanum || c = '_'

/-- A parameter with the blanks around its key, its equals sign and its value. -/
structure WrittenParam where
  beforeKey : Blanks
  key : List Char
  afterKey : Blanks
  beforeValue : Blanks
  value : QuotedText
  afterValue : Blanks
  keyNonempty : key ≠ []
  keyChars : ∀ c ∈ key, isKeyChar c = true

namespace WrittenParam

/-- The parameter without the blanks around it. -/
def core (p : WrittenParam) : List Char :=
  p.key ++ (p.afterKey.text ++ '=' :: (p.beforeValue.text ++ p.value.text))

/-- The text of a parameter. -/
def text (p : WrittenParam) : List Char :=
  p.beforeKey.text ++ (p.core ++ p.afterValue.text)

/-- The parameter that is meant. -/
def entry (p : WrittenParam) : String × String :=
  (String.ofList p.key, String.ofList p.value.value)

end WrittenParam

/-! ## Queries -/

/-- What follows the word `is`: parameters in parentheses, or a value that is the parameter
`name`. -/
inductive WrittenArguments where
  | list (first : WrittenParam) (others : List WrittenParam)
      (distinct : ((first :: others).map (·.key)).Nodup)
  | value (value : QuotedText)

namespace WrittenArguments

/-- The parameters with commas between them. -/
def listText (first : WrittenParam) (others : List WrittenParam) : List Char :=
  first.text ++ (others.map (·.text)).flatMap (',' :: ·)

/-- The text of the arguments. -/
def text : WrittenArguments → List Char
  | list first others _ => '(' :: (listText first others ++ [')'])
  | value v => v.text

/-- The parameters that are meant, in the order in which they are written. -/
def params : WrittenArguments → List (String × String)
  | list first others _ => (first :: others).map (·.entry)
  | value v => [(nameParam, String.ofList v.value)]

end WrittenArguments

/-- A query: `kind.symbol is arguments`. -/
structure WrittenQuery where
  kind : List Char
  symbol : List Char
  afterHead : Gap
  beforeArguments : Gap
  arguments : WrittenArguments
  isKind : isName kind = true
  isSymbol : isName symbol = true

namespace WrittenQuery

/-- The kind and the symbol with a dot between them. -/
def head (q : WrittenQuery) : List Char := q.kind ++ '.' :: q.symbol

/-- The word `is` and the arguments. -/
def clause (q : WrittenQuery) : List Char :=
  ['i', 's'] ++ (q.beforeArguments.text ++ q.arguments.text)

/-- The text of a query. -/
def text (q : WrittenQuery) : List Char := q.head ++ (q.afterHead.text ++ q.clause)

/-- The query that is meant. -/
def query (q : WrittenQuery) : Query where
  kind := String.ofList q.kind
  symbol := String.ofList q.symbol
  params := q.arguments.params

end WrittenQuery

/-! ## Conditions -/

/-- A connective in some letter case, between blanks, and the query after it. -/
structure WrittenBranch where
  before : Gap
  connective : Connective
  word : List Char
  after : Gap
  query : WrittenQuery
  spelled : word.map Char.toLower = connective.word

/-- The text of a connective and the query after it. -/
def WrittenBranch.text (b : WrittenBranch) : List Char :=
  b.before.text ++ (b.word ++ (b.after.text ++ b.query.text))

/-- A condition: one query, or several with connectives between them. -/
structure WrittenCondition where
  before : Blanks
  first : WrittenQuery
  branches : List WrittenBranch
  after : Blanks

namespace WrittenCondition

/-- The characters of a condition. -/
def chars (w : WrittenCondition) : List Char :=
  w.before.text ++ (w.first.text ++ (w.branches.flatMap (·.text) ++ w.after.text))

/-- The text of a condition. -/
def text (w : WrittenCondition) : String := String.ofList w.chars

/-- The queries that are meant, in order. -/
def queries (w : WrittenCondition) : List Query :=
  w.first.query :: w.branches.map (·.query.query)

/-- The connectives between the queries, in order. -/
def connectives (w : WrittenCondition) : List Connective := w.branches.map (·.connective)

end WrittenCondition

/-! ## Characters of names and keys -/

/-- The codes of letters and digits. -/
theorem toNat_of_isAlphanum {c : Char} (h : c.isAlphanum = true) :
    (48 ≤ c.toNat ∧ c.toNat ≤ 57) ∨ (65 ≤ c.toNat ∧ c.toNat ≤ 90) ∨
      (97 ≤ c.toNat ∧ c.toNat ≤ 122) := by
  have code : c.val.toNat = c.toNat := rfl
  simp only [Char.isAlphanum, Char.isAlpha, Char.isUpper, Char.isLower, Char.isDigit,
    Bool.or_eq_true, Bool.and_eq_true, decide_eq_true_eq, ge_iff_le, UInt32.le_iff_toNat_le, code,
    Char.reduceVal, UInt32.reduceToNat] at h
  omega

/-- A letter or a digit is none of the characters that the grammar gives a meaning to. -/
theorem ne_of_isAlphanum {c d : Char} (h : c.isAlphanum = true) (special : d.isAlphanum = false) :
    c ≠ d := by
  rintro rfl
  rw [h] at special
  cases special

theorem not_isBlank_of_isAlphanum {c : Char} (h : c.isAlphanum = true) : isBlank c = false := by
  have codes := toNat_of_isAlphanum h
  by_contra blank
  simp only [Bool.not_eq_false, isBlank, Bool.or_eq_true, Bool.and_eq_true, decide_eq_true_eq,
    beq_iff_eq] at blank
  omega

/-- A character that stands for itself in names and keys: neither a blank nor one with a meaning in
the grammar. -/
structure Solid (c : Char) : Prop where
  notBlank : isBlank c = false
  plain : isPlain c = true
  notComma : c ≠ ','
  notEquals : c ≠ '='

theorem Solid.of_isAlphanum {c : Char} (h : c.isAlphanum = true) : Solid c where
  notBlank := not_isBlank_of_isAlphanum h
  plain := by
    have notSingle : c ≠ '\'' := ne_of_isAlphanum h (by decide)
    have notDouble : c ≠ '"' := ne_of_isAlphanum h (by decide)
    have notOpen : c ≠ '(' := ne_of_isAlphanum h (by decide)
    have notClose : c ≠ ')' := ne_of_isAlphanum h (by decide)
    simp [isPlain, isQuote, notSingle, notDouble, notOpen, notClose]
  notComma := ne_of_isAlphanum h (by decide)
  notEquals := ne_of_isAlphanum h (by decide)

theorem Solid.underscore : Solid '_' := ⟨by decide, by decide, by decide, by decide⟩

theorem Solid.dash : Solid '-' := ⟨by decide, by decide, by decide, by decide⟩

theorem Solid.of_isKeyChar {c : Char} (h : isKeyChar c = true) : Solid c := by
  simp only [isKeyChar, Bool.or_eq_true, decide_eq_true_eq] at h
  rcases h with alnum | rfl
  · exact .of_isAlphanum alnum
  · exact .underscore

theorem Solid.of_isNameChar {c : Char} (h : isNameChar c = true) : Solid c := by
  simp only [isNameChar, Bool.or_eq_true, decide_eq_true_eq] at h
  rcases h with (alnum | rfl) | rfl
  · exact .of_isAlphanum alnum
  · exact .underscore
  · exact .dash

end Uplift.Condition
