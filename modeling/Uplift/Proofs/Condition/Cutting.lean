import Mathlib
import Uplift.Condition.Reader

/-!
# What the two cutters pass over

A condition is cut at its connectives and a parameter list at its commas, each by a scanner with a
state of its own. A piece of text is *passed* by a scanner if, whatever follows the piece, the
scanner takes it into the current part and is in its old state after it.

* `PassedBy`: the pieces that a scanner passes. They are closed under juxtaposition
  (`PassedBy.append`), and what a scanner in another state passes may stand between marks that lead
  to that state and back (`PassedBy.enclosed`).
* `Passes`, `PassesComma`: the pieces that the cutter of conditions and the cutter of parameter
  lists pass. Quoted text is among both, whatever it holds.
* `cutFrom_connective`: what the cutter of conditions does at a blank before a connective.
-/

namespace Uplift.Condition

open Text

/-! ## Scanners -/

section Scanners

variable {β : Type} {scan inner : List Char → List Char → β} {a b s : List Char}

/-- Whatever follows the piece, the scanner takes it into the current part and goes on as before. A
scanner holds the current part in reverse. -/
def PassedBy (scan : List Char → List Char → β) (s : List Char) : Prop :=
  ∀ part rest, scan part (s ++ rest) = scan (s.reverse ++ part) rest

theorem PassedBy.nil : PassedBy scan [] := fun _ _ => rfl

theorem PassedBy.append (ha : PassedBy scan a) (hb : PassedBy scan b) : PassedBy scan (a ++ b) := by
  intro part rest
  rw [List.append_assoc, ha, hb, List.reverse_append, List.append_assoc]

/-- A piece is passed if each of its characters is. -/
theorem PassedBy.of_each
    (each : ∀ c ∈ s, ∀ part rest, scan part (c :: rest) = scan (c :: part) rest) :
    PassedBy scan s := by
  intro part rest
  induction s generalizing part with
  | nil => rfl
  | cons c s ih =>
    rw [List.cons_append, each c List.mem_cons_self,
      ih fun x member => each x (List.mem_cons_of_mem c member)]
    simp

/-- One mark leads into another state, which passes the piece, and one mark leads back. -/
theorem PassedBy.enclosed {opening closing : Char}
    (enters : ∀ part rest, scan part (opening :: rest) = inner (opening :: part) rest)
    (leaves : ∀ part rest, inner part (closing :: rest) = scan (closing :: part) rest)
    (passed : PassedBy inner s) : PassedBy scan (opening :: (s ++ [closing])) := by
  intro part rest
  rw [List.cons_append, enters, List.append_assoc, passed, List.singleton_append, leaves]
  simp

end Scanners

/-! ## The cutter of conditions, character by character -/

theorem isQuote_iff {c : Char} : isQuote c = true ↔ c = '\'' ∨ c = '"' := by
  simp [isQuote]

section Steps

variable {depth : Nat} {found : Option Connective} {term rest : List Char} {c : Char}

theorem cutFrom_nil : cutFrom none 0 found term [] = .ok ⟨found, [term.reverse]⟩ := by
  rw [cutFrom.eq_def]; simp

theorem cutFrom_some {q : Char} :
    cutFrom (some q) depth found term (c :: rest) =
      cutFrom (if c = q then none else some q) depth found (c :: term) rest := by
  rw [cutFrom.eq_def]

theorem cutFrom_mark (mark : isQuote c = true) :
    cutFrom none depth found term (c :: rest) =
      cutFrom (some c) depth found (c :: term) rest := by
  rw [cutFrom.eq_def]; simp [mark]

theorem cutFrom_open :
    cutFrom none depth found term ('(' :: rest) =
      cutFrom none (depth + 1) found ('(' :: term) rest := by
  rw [cutFrom.eq_def]; simp [isQuote]

theorem cutFrom_close :
    cutFrom none (depth + 1) found term (')' :: rest) =
      cutFrom none depth found (')' :: term) rest := by
  rw [cutFrom.eq_def]; simp [isQuote]

/-- A character that is neither a mark nor a parenthesis is taken, unless it is a blank outside
parentheses before a connective. -/
theorem cutFrom_plain (notMark : isQuote c = false) (notOpen : c ≠ '(') (notClose : c ≠ ')')
    (noWord : isBlank c = true → depth = 0 → connective? rest = none) :
    cutFrom none depth found term (c :: rest) = cutFrom none depth found (c :: term) rest := by
  rw [cutFrom.eq_def]
  simp only [notMark, Bool.false_eq_true, if_false, notOpen, notClose]
  -- What is left is the test for a connective, which finds none.
  split
  · rename_i outside
    split
    · rename_i word after isWord
      rw [noWord outside.1 outside.2] at isWord
      cases isWord
    · rfl
  · rfl

/-- At a blank outside parentheses and before a connective the current term ends. -/
theorem cutFrom_connective {word : Connective} {after : List Char} (blank : isBlank c = true)
    (isWord : connective? rest = some (word, after)) :
    cutFrom none 0 found term (c :: rest) =
      if found.isSome ∧ found ≠ some word then .error .mixedConnectives
      else (cutFrom none 0 (some word) [] after).map fun cut =>
        { cut with terms := term.reverse :: cut.terms } := by
  have notMark : isQuote c = false := by
    by_contra mark
    rw [Bool.not_eq_false, isQuote_iff] at mark
    rcases mark with rfl | rfl <;> exact absurd blank (by decide)
  have notOpen : c ≠ '(' := by rintro rfl; exact absurd blank (by decide)
  have notClose : c ≠ ')' := by rintro rfl; exact absurd blank (by decide)
  rw [cutFrom.eq_def]
  simp only [notMark, Bool.false_eq_true, if_false, notOpen, notClose, blank, and_self, if_true]
  split
  · rename_i word' after' isWord'
    rw [isWord] at isWord'
    obtain ⟨rfl, rfl⟩ := Prod.mk.inj (Option.some.inj isWord')
    split
    · rfl
    · cases cutFrom none 0 (some word) [] after <;> rfl
  · rename_i noWord
    rw [isWord] at noWord
    cases noWord

end Steps

/-! ## Where no connective begins -/

theorem isAlpha_of_isBlank {c : Char} (blank : isBlank c = true) : c.isAlpha = false := by
  by_contra alpha
  simp only [Bool.not_eq_false, Char.isAlpha, Char.isUpper, Char.isLower, Bool.or_eq_true,
    Bool.and_eq_true, decide_eq_true_eq, ge_iff_le, UInt32.le_iff_toNat_le] at alpha
  simp only [isBlank, Bool.or_eq_true, Bool.and_eq_true, decide_eq_true_eq, beq_iff_eq] at blank
  have code : c.val.toNat = c.toNat := rfl
  simp only [code, Char.reduceVal, UInt32.reduceToNat] at alpha
  omega

theorem isAlpha_of_toLower {c : Char} (h : c.toLower.isAlpha = true) : c.isAlpha = true := by
  unfold Char.toLower at h
  split at h
  · rename_i upper
    simp only [Char.isAlpha, Char.isUpper, Bool.or_eq_true, decide_eq_true_eq]
    exact .inl upper
  · exact h

theorem connective?_nil : connective? [] = none := rfl

/-- No connective begins with a blank. -/
theorem connective?_blank {c : Char} {rest : List Char} (blank : isBlank c = true) :
    connective? (c :: rest) = none := by
  have notAlpha := isAlpha_of_isBlank blank
  simp [connective?, notAlpha, blank, Connective.word]

/-- A run of letters that something other than a blank ends is no connective. -/
theorem connective?_unblank {s : List Char} {c : Char} {tail : List Char}
    (stops : s.dropWhile Char.isAlpha = c :: tail) (notBlank : isBlank c = false) :
    connective? s = none := by
  simp [connective?, stops, notBlank]

/-- A run of letters in which there is another character ends at a character of its own. -/
theorem dropWhile_append_of_stop {p : Char → Bool} {a b : List Char}
    (stop : ∃ c ∈ a, p c = false) : ∃ c ∈ a, ∃ tail, (a ++ b).dropWhile p = c :: tail := by
  induction a with
  | nil => exact absurd stop (by simp)
  | cons d a ih =>
    cases here : p d with
    | false => exact ⟨d, List.mem_cons_self, a ++ b, by simp [here]⟩
    | true =>
      have later : ∃ c ∈ a, p c = false := by
        obtain ⟨c, member, stops⟩ := stop
        rcases List.mem_cons.mp member with rfl | member
        · rw [here] at stops; cases stops
        · exact ⟨c, member, stops⟩
      obtain ⟨c, member, tail, dropped⟩ := ih later
      exact ⟨c, List.mem_cons_of_mem d member, tail, by simpa [here] using dropped⟩

/-- A connective is spelled with letters. -/
theorem isAlpha_of_spelled {letters : List Char} {word : Connective}
    (spelled : letters.map Char.toLower = word.word) : ∀ c ∈ letters, c.isAlpha = true := by
  intro c member
  have lower : c.toLower ∈ word.word := spelled ▸ List.mem_map_of_mem member
  have small : word.word.all Char.isAlpha = true := by cases word <;> rfl
  exact isAlpha_of_toLower (List.all_eq_true.mp small _ lower)

/-- A connective in any letter case, before a blank. -/
theorem connective?_word {word : List Char} {c : Connective} {b : Char} {rest : List Char}
    (spelled : word.map Char.toLower = c.word) (blank : isBlank b = true) :
    connective? (word ++ b :: rest) = some (c, b :: rest) := by
  have letters := isAlpha_of_spelled spelled
  have stops := isAlpha_of_isBlank blank
  have taken : (word ++ b :: rest).takeWhile Char.isAlpha = word := by
    rw [List.takeWhile_append_of_pos letters]
    simp [stops]
  have left : (word ++ b :: rest).dropWhile Char.isAlpha = b :: rest := by
    rw [List.dropWhile_append_of_pos letters]
    simp [stops]
  cases c <;> simp [connective?, taken, left, blank, spelled, Connective.word]

theorem connective?_eq_some_iff {s after : List Char} {word : Connective} :
    connective? s = some (word, after) ↔
      (∃ letters, s = letters ++ after ∧ letters.map Char.toLower = word.word) ∧
        ∃ b rest, after = b :: rest ∧ isBlank b = true := by
  constructor
  · intro found
    have split : s.takeWhile Char.isAlpha ++ s.dropWhile Char.isAlpha = s :=
      List.takeWhile_append_dropWhile
    cases stops : s.dropWhile Char.isAlpha with
    | nil => simp [connective?, stops] at found
    | cons b rest =>
      rw [stops] at split
      by_cases blank : isBlank b = true
      · simp only [connective?, stops, List.head?_cons, Option.map_some, blank, Option.getD_some,
          if_true] at found
        split at found
        · next spelled =>
          obtain ⟨rfl, rfl⟩ := Prod.mk.inj (Option.some.inj found)
          exact ⟨⟨_, split.symm, spelled⟩, b, rest, rfl, blank⟩
        · split at found
          · next spelled =>
            obtain ⟨rfl, rfl⟩ := Prod.mk.inj (Option.some.inj found)
            exact ⟨⟨_, split.symm, spelled⟩, b, rest, rfl, blank⟩
          · cases found
      · rw [connective?_unblank stops (by simpa using blank)] at found
        cases found
  · rintro ⟨⟨letters, rfl, spelled⟩, b, rest, rfl, blank⟩
    exact connective?_word spelled blank

/-! ## Pieces that the cutter of conditions passes -/

/-- Whatever follows the piece, it is taken into the current term, and the cutter is again outside
quotes and at the same depth of parentheses. -/
def Passes (depth : Nat) (s : List Char) : Prop :=
  ∀ found, PassedBy (cutFrom none depth found) s

theorem Passes.nil {depth : Nat} : Passes depth [] := fun _ => .nil

theorem Passes.append {depth : Nat} {a b : List Char} (ha : Passes depth a)
    (hb : Passes depth b) : Passes depth (a ++ b) :=
  fun found => (ha found).append (hb found)

theorem Passes.quoted {depth : Nat} {q : Char} {s : List Char} (mark : isQuote q = true)
    (fresh : q ∉ s) : Passes depth (q :: (s ++ [q])) := by
  intro found
  -- Inside quotes nothing but the mark that opened them counts.
  have inside : PassedBy (cutFrom (some q) depth found) s := by
    refine .of_each fun c member term rest => ?_
    have other : c ≠ q := fun same => fresh (same ▸ member)
    rw [cutFrom_some, if_neg other]
  exact .enclosed (fun _ _ => cutFrom_mark mark)
    (fun _ _ => by rw [cutFrom_some, if_pos rfl]) inside

theorem Passes.parenthesised {depth : Nat} {s : List Char} (inner : Passes (depth + 1) s) :
    Passes depth ('(' :: (s ++ [')'])) :=
  fun found => .enclosed (fun _ _ => cutFrom_open) (fun _ _ => cutFrom_close) (inner found)

/-- A character that is neither a quotation mark nor a parenthesis. -/
def isPlain (c : Char) : Bool := !isQuote c && c ≠ '(' && c ≠ ')'

theorem isPlain_iff {c : Char} : isPlain c = true ↔ isQuote c = false ∧ c ≠ '(' ∧ c ≠ ')' := by
  simp [isPlain, and_assoc]

/-- Plain text passes inside parentheses, and outside them if it has no blank. -/
theorem Passes.plain {depth : Nat} {s : List Char} (plain : ∀ c ∈ s, isPlain c = true)
    (solid : depth = 0 → ∀ c ∈ s, isBlank c = false) : Passes depth s := by
  refine fun found => .of_each fun c member term rest => ?_
  obtain ⟨notMark, notOpen, notClose⟩ := isPlain_iff.mp (plain c member)
  refine cutFrom_plain notMark notOpen notClose fun blank outside => ?_
  rw [solid outside c member] at blank
  cases blank

/-- A property that no quotation mark and no parenthesis has is one of plain characters. -/
theorem isPlain_of_ne {p : Char → Bool} {c : Char}
    (others : ['\'', '"', '(', ')'].any p = false) (holds : p c = true) : isPlain c = true := by
  by_contra special
  have member : c ∈ ['\'', '"', '(', ')'] := by
    simpa [isPlain, isQuote, or_assoc, not_and_or, -not_and] using special
  exact absurd holds (List.any_eq_false.mp others c member)

theorem isPlain_of_isBlank {c : Char} (blank : isBlank c = true) : isPlain c = true :=
  isPlain_of_ne (by decide) blank

theorem isPlain_of_isAlpha {c : Char} (letter : c.isAlpha = true) : isPlain c = true :=
  isPlain_of_ne (by decide) letter

/-- Blanks are passed where no connective follows them. -/
theorem cutFrom_blanks {s rest : List Char} (blank : isBlankText s = true)
    (noWord : connective? rest = none) (depth : Nat) (found : Option Connective)
    (term : List Char) :
    cutFrom none depth found term (s ++ rest) =
      cutFrom none depth found (s.reverse ++ term) rest := by
  induction s generalizing term with
  | nil => rfl
  | cons c s ih =>
    simp only [isBlankText, List.all_cons, Bool.and_eq_true] at blank
    obtain ⟨notMark, notOpen, notClose⟩ := isPlain_iff.mp (isPlain_of_isBlank blank.1)
    -- Between blanks no connective begins, and at the last of them none follows.
    have noWordNext : connective? (s ++ rest) = none := by
      cases s with
      | nil => exact noWord
      | cons d s => exact connective?_blank (by simp_all [isBlankText])
    rw [List.cons_append, cutFrom_plain notMark notOpen notClose fun _ _ => noWordNext,
      ih blank.2]
    simp

/-- Blanks and a piece at which no connective begins. -/
theorem Passes.afterBlanks {g s : List Char} (blank : isBlankText g = true)
    (noWord : ∀ rest, connective? (s ++ rest) = none) (hs : Passes 0 s) : Passes 0 (g ++ s) := by
  intro found term rest
  rw [List.append_assoc, cutFrom_blanks blank (noWord rest), hs]
  simp

/-! ## Pieces that the cutter of parameter lists passes -/

/-- Whatever follows the piece, it is taken into the current part, and the cutter is again outside
quotes. -/
def PassesComma (s : List Char) : Prop := PassedBy (parts none) s

theorem PassesComma.append {a b : List Char} (ha : PassesComma a) (hb : PassesComma b) :
    PassesComma (a ++ b) :=
  PassedBy.append ha hb

theorem PassesComma.quoted {q : Char} {s : List Char} (mark : isQuote q = true)
    (fresh : q ∉ s) : PassesComma (q :: (s ++ [q])) := by
  have inside : PassedBy (parts (some q)) s := by
    refine .of_each fun c member part rest => ?_
    have other : c ≠ q := fun same => fresh (same ▸ member)
    rw [parts, if_neg other]
  exact .enclosed (fun _ _ => by rw [parts, if_pos mark])
    (fun _ _ => by rw [parts, if_pos rfl]) inside

theorem PassesComma.plain {s : List Char}
    (plain : ∀ c ∈ s, isQuote c = false ∧ c ≠ ',') : PassesComma s := by
  refine .of_each fun c member part rest => ?_
  obtain ⟨notMark, notComma⟩ := plain c member
  rw [parts, if_neg (by simp [notMark]), if_neg notComma]

/-- Pieces with commas between them are the parts of the whole. -/
theorem parts_join {first : List Char} {others : List (List Char)} (hf : PassesComma first)
    (ho : ∀ s ∈ others, PassesComma s) :
    parts none [] (first ++ others.flatMap (',' :: ·)) = first :: others := by
  induction others generalizing first with
  | nil => rw [hf]; simp [parts]
  | cons s others ih =>
    have next := ih (ho s List.mem_cons_self) fun x member => ho x (List.mem_cons_of_mem s member)
    rw [List.flatMap_cons, List.cons_append, hf, parts, if_neg (by decide), if_pos rfl, next]
    simp

end Uplift.Condition
