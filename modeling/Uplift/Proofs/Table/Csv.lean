import Mathlib
import Uplift.Table.Csv

/-!
# Comma-separated values, written and read

A field is written bare, or in quotes with each quote of its own doubled; one that holds a comma, a
quote or a line break cannot stand bare. Commas separate the fields of a record, and a line feed
ends it, perhaps after a carriage return.

Reading is followed part by part, whatever comes after the part: a field (`records?_field`), the
other fields of its record (`records?_others`), the end of the record (`records?_record`). However
records are written, they are read back (`parse?_written`). Any text that ends with a line feed,
well formed or not, is read apart from what follows it (`records?_append`, `parse?_append`).
-/

namespace Uplift.Csv

/-! ## Records as they are written -/

/-- A field with such a character is written in quotes. -/
def isSpecial (c : Char) : Bool := c = ',' || c = '"' || c = '\r' || c = '\n'

/-- A text with each quote twice. -/
def doubled (s : List Char) : List Char := s.flatMap fun c => if c = '"' then ['"', '"'] else [c]

/-- A field, and whether it stands in quotes. -/
structure WrittenField where
  text : String
  quoted : Bool
  bare : quoted = false → ∀ c ∈ text.toList, isSpecial c = false

def WrittenField.chars (f : WrittenField) : List Char :=
  if f.quoted then '"' :: (doubled f.text.toList ++ ['"']) else f.text.toList

/-- A record of one field or more, and whether a carriage return stands before its line feed. -/
structure WrittenRecord where
  first : WrittenField
  others : List WrittenField
  returned : Bool

namespace WrittenRecord

def fields (r : WrittenRecord) : List String := r.first.text :: r.others.map (·.text)

/-- The record without its line end. -/
def line (r : WrittenRecord) : List Char :=
  r.first.chars ++ r.others.flatMap fun f => ',' :: f.chars

def chars (r : WrittenRecord) : List Char :=
  r.line ++ if r.returned then ['\r', '\n'] else ['\n']

end WrittenRecord

variable {done : List String} {field rest : List Char} {p : Partial}

/-! ## One field -/

/-- Within quotes, up to the quote that ends them: the text that stands there is the field's. -/
theorem records?_quoted (s : List Char) (h : rest.head? ≠ some '"') :
    records? true ⟨done, field⟩ (doubled s ++ '"' :: rest) =
      records? false ⟨done, s.reverse ++ field⟩ rest := by
  induction s generalizing field with
  | nil =>
    -- The quote is not doubled, so it is the last one.
    rw [doubled, List.flatMap_nil, List.nil_append, records?.eq_def]
    cases rest with
    | nil => simp
    | cons c rest =>
      have hc : c ≠ '"' := by simpa using h
      simp [hc]
  | cons c s ih =>
    have hs : doubled (c :: s) = (if c = '"' then ['"', '"'] else [c]) ++ doubled s := rfl
    rw [hs, List.append_assoc, records?.eq_def]
    by_cases hc : c = '"'
    · subst hc
      simpa [Partial.push] using @ih ('"' :: field)
    · simpa [hc, Partial.push] using @ih (c :: field)

theorem records?_bare (s : List Char) (h : ∀ c ∈ s, isSpecial c = false) :
    records? false ⟨done, field⟩ (s ++ rest) =
      records? false ⟨done, s.reverse ++ field⟩ rest := by
  induction s generalizing field with
  | nil => rfl
  | cons c s ih =>
    rw [List.forall_mem_cons] at h
    have hc := h.1
    simp only [isSpecial, Bool.or_eq_false_iff, decide_eq_false_iff_not] at hc
    obtain ⟨⟨⟨comma, quote⟩, returned⟩, lineFeed⟩ := hc
    rw [List.cons_append, records?.eq_def]
    simpa [comma, quote, returned, lineFeed, Partial.push] using @ih (c :: field) h.2

/-- A field at its beginning is read as its text, bare or quoted. -/
theorem records?_field (f : WrittenField) (h : rest.head? ≠ some '"') :
    records? false ⟨done, []⟩ (f.chars ++ rest) =
      records? false ⟨done, f.text.toList.reverse⟩ rest := by
  unfold WrittenField.chars
  by_cases hf : f.quoted = true
  · rw [if_pos hf, List.cons_append, List.append_assoc, List.singleton_append, records?.eq_def]
    have body : records? true ⟨done, []⟩ (doubled f.text.toList ++ '"' :: rest) =
        records? false ⟨done, f.text.toList.reverse ++ []⟩ rest :=
      records?_quoted f.text.toList h
    rw [List.append_nil] at body
    simpa using body
  · rw [if_neg hf, records?_bare _ (f.bare (by simpa using hf)), List.append_nil]

/-! ## One record -/

/-- What was read, once a comma and a field more are. -/
def Partial.extend (p : Partial) (f : WrittenField) : Partial :=
  ⟨p.next.fields, f.text.toList.reverse⟩

theorem records?_others (fs : List WrittenField) (h : rest.head? ≠ some '"') :
    records? false p (fs.flatMap (fun f => ',' :: f.chars) ++ rest) =
      records? false (fs.foldl Partial.extend p) rest := by
  induction fs generalizing p with
  | nil => rfl
  | cons f fs ih =>
    -- What follows a field is a comma or what follows the record, never a quote.
    have after : (fs.flatMap (fun f => ',' :: f.chars) ++ rest).head? ≠ some '"' := by
      cases fs with
      | nil => exact h
      | cons => simp
    have comma : records? false p (',' :: (f.chars ++
        (fs.flatMap (fun f => ',' :: f.chars) ++ rest))) =
          records? false p.next (f.chars ++ (fs.flatMap (fun f => ',' :: f.chars) ++ rest)) := by
      rw [records?.eq_def]
      simp
    rw [List.flatMap_cons, List.cons_append, List.cons_append, List.append_assoc, comma,
      List.foldl_cons, ← ih]
    exact records?_field f after

@[simp] theorem Partial.finish_extend (p : Partial) (f : WrittenField) :
    (p.extend f).finish = p.finish ++ [f.text] := by
  simp [extend, finish, next]

theorem Partial.finish_foldl (p : Partial) (fs : List WrittenField) :
    (fs.foldl extend p).finish = p.finish ++ fs.map (·.text) := by
  induction fs generalizing p with
  | nil => simp
  | cons f fs ih => simp [ih]

/-- What is read once a record is, up to its line end. -/
def WrittenRecord.read (r : WrittenRecord) : Partial :=
  r.others.foldl Partial.extend ⟨[], r.first.text.toList.reverse⟩

theorem WrittenRecord.finish_read (r : WrittenRecord) : r.read.finish = r.fields := by
  rw [read, Partial.finish_foldl]
  simp [Partial.finish, Partial.next, fields]

/-- Nothing was read exactly if the record is one empty field. -/
theorem WrittenRecord.isEmpty_read (r : WrittenRecord) :
    r.read.isEmpty = true ↔ r.fields = [""] := by
  unfold read fields
  cases r.others using List.reverseRecOn with
  | nil => simp [Partial.isEmpty]
  | append_singleton fs f => simp [Partial.isEmpty, Partial.extend, Partial.next]

theorem records?_line (r : WrittenRecord) (h : rest.head? ≠ some '"') :
    records? false {} (r.line ++ rest) = records? false r.read rest := by
  have after : (r.others.flatMap (fun f => ',' :: f.chars) ++ rest).head? ≠ some '"' := by
    cases r.others with
    | nil => exact h
    | cons => simp
  rw [WrittenRecord.line, List.append_assoc, records?_field r.first after, records?_others _ h]
  rfl

/-- A carriage return before a line feed counts for nothing. -/
theorem records?_return :
    records? false p ('\r' :: '\n' :: rest) = records? false p ('\n' :: rest) := by
  rw [records?.eq_def]
  simp

/-- A record is read, and nothing of it is left over for the next one. -/
theorem records?_record (r : WrittenRecord) :
    records? false {} (r.chars ++ rest) = (records? false {} rest).map (r.fields :: ·) := by
  rw [WrittenRecord.chars, List.append_assoc, ← r.finish_read]
  by_cases hr : r.returned = true
  · rw [if_pos hr, records?_line r (by simp)]
    exact records?_return.trans (records?_lineFeed r.read rest)
  · rw [if_neg hr, records?_line r (by simp)]
    exact records?_lineFeed r.read rest

theorem records?_records (rs : List WrittenRecord) :
    records? false {} (rs.flatMap WrittenRecord.chars ++ rest) =
      (records? false {} rest).map (rs.map WrittenRecord.fields ++ ·) := by
  induction rs with
  | nil => simp
  | cons r rs ih =>
    rw [List.flatMap_cons, List.append_assoc, records?_record, ih, Option.map_map]
    rfl

/-- **However records are written, they are read back.** A record at the end may lack its line end;
only if it is a single empty field is it lost then. -/
theorem parse?_written (rs : List WrittenRecord) (last : WrittenRecord) :
    parse? (rs.flatMap WrittenRecord.chars) = some (rs.map WrittenRecord.fields) ∧
    parse? (rs.flatMap WrittenRecord.chars ++ last.line) =
      some (rs.map WrittenRecord.fields ++ if last.fields = [""] then [] else [last.fields]) := by
  constructor
  · have whole : records? false {} (rs.flatMap WrittenRecord.chars ++ []) =
        (records? false {} []).map (rs.map WrittenRecord.fields ++ ·) := records?_records rs
    rw [List.append_nil] at whole
    rw [parse?, whole, records?]
    simp [Partial.isEmpty]
  · have line : records? false {} (last.line ++ []) = records? false last.read [] :=
      records?_line last (by simp)
    rw [List.append_nil, records?] at line
    rw [parse?, records?_records, line, last.finish_read]
    simp [last.isEmpty_read]

/-- Both line ends, an empty field in quotes, and a line break within quotes. -/
example : parse? "a,\"\"\r\n\"x\n\"\"\",b".toList = some [["a", ""], ["x\n\"", "b"]] := by
  decide +kernel

/-! ## Texts put together -/

section Append

variable {quoted : Bool} {a : List Char} {before : List (List String)}

theorem records?_end (b : List Char) (ran : records? false p ['\n'] = some before) :
    records? false p ('\n' :: b) = (records? false {} b).map (before ++ ·) := by
  rw [records?_lineFeed] at ran ⊢
  obtain rfl : [p.finish] = before := by simpa [records?, Partial.isEmpty] using ran
  rfl

/-- A character without a meaning of its own is one more of the field. -/
theorem records?_push {c : Char} (notQuote : ¬ (c = '"' && p.field.isEmpty) = true)
    (notComma : c ≠ ',') (notEnd : c ≠ '\n') (stays : ¬ (c = '\r' ∧ rest.head? = some '\n')) :
    records? false p (c :: rest) = records? false (p.push c) rest := by
  rw [records?.eq_def]
  simp only [Bool.false_eq_true, if_false]
  rw [if_neg notQuote, if_neg notComma, if_neg (by simpa using stays), if_neg notEnd]

/-- A line feed that ends a record leaves nothing behind: what follows it is read as a text of its
own, whatever had been begun before `a`. -/
theorem records?_append (b : List Char) (ran : records? quoted p (a ++ ['\n']) = some before) :
    records? quoted p (a ++ '\n' :: b) = (records? false {} b).map (before ++ ·) := by
  induction quoted, p, a using records?.induct generalizing before with
  | case1 p =>
    -- The line feed stands in quotes that nothing closes.
    rw [List.nil_append, records?.eq_def] at ran
    cases ran
  | case2 quoted p bare =>
    obtain rfl : quoted = false := by simpa using bare
    exact records?_end b ran
  | case3 p a ih =>
    rw [List.cons_append, List.cons_append, records?.eq_def] at ran ⊢
    exact ih ran
  | case4 p a single ih =>
    have closes (rest : List Char) : records? true p ('"' :: (a ++ '\n' :: rest)) =
        records? false p (a ++ '\n' :: rest) := by
      rw [records?.eq_def]
      cases a with
      | nil => rfl
      | cons d a =>
        have other : d ≠ '"' := by
          rintro rfl
          exact single a rfl
        simp [other]
    rw [List.cons_append, closes] at ran ⊢
    exact ih ran
  | case5 p c a other ih =>
    rw [List.cons_append, records?.eq_def] at ran ⊢
    simp only [other, if_true, if_false] at ran ⊢
    exact ih ran
  | case6 quoted p c a bare opens ih =>
    obtain rfl : quoted = false := by simpa using bare
    rw [List.cons_append, records?.eq_def] at ran ⊢
    simp only [opens, if_true] at ran ⊢
    exact ih ran
  | case7 quoted p a bare notOpens ih =>
    obtain rfl : quoted = false := by simpa using bare
    rw [List.cons_append, records?.eq_def] at ran ⊢
    exact ih ran
  | case8 quoted p c a bare notOpens notComma skipped ih =>
    obtain rfl : quoted = false := by simpa using bare
    simp only [Bool.and_eq_true, decide_eq_true_eq] at skipped
    obtain ⟨rfl, lineFeed⟩ := skipped
    obtain ⟨a, rfl⟩ := List.head?_eq_some_iff.mp lineFeed
    rw [List.cons_append, List.cons_append, records?_return] at ran ⊢
    exact ih ran
  | case9 quoted p a bare _ _ _ ih =>
    obtain rfl : quoted = false := by simpa using bare
    rw [List.cons_append, records?_lineFeed] at ran ⊢
    obtain ⟨later, read, rfl⟩ := Option.map_eq_some_iff.mp ran
    rw [ih read, Option.map_map]
    rfl
  | case10 quoted p c a bare notOpens notComma notSkipped notEnd ih =>
    obtain rfl : quoted = false := by simpa using bare
    rw [List.cons_append] at ran ⊢
    by_cases last : c = '\r' ∧ a = []
    · -- The carriage return at the end of `a` is the one before the line feed.
      obtain ⟨rfl, rfl⟩ := last
      rw [List.nil_append, records?_return] at ran ⊢
      exact records?_end b ran
    · have stays (rest : List Char) : ¬ (c = '\r' ∧ (a ++ '\n' :: rest).head? = some '\n') := by
        rintro ⟨rfl, lineFeed⟩
        cases a with
        | nil => exact last ⟨rfl, rfl⟩
        | cons d a => exact notSkipped (by simpa using lineFeed)
      rw [records?_push notOpens notComma notEnd (stays _)] at ran ⊢
      exact ih ran

/-- **Reading composes over record boundaries.** A text that is read, and is empty or ends with a
line feed, may be followed by any text: the whole is read exactly if what follows is, and its
records are those of both, one after the other. -/
theorem parse?_append {a b : List Char} {before : List (List String)}
    (read : parse? a = some before) (ended : a = [] ∨ a.getLast? = some '\n') :
    (parse? (a ++ b) = none ↔ parse? b = none) ∧
    ∀ after, parse? b = some after → parse? (a ++ b) = some (before ++ after) := by
  have whole : parse? (a ++ b) = (parse? b).map (before ++ ·) := by
    rcases ended with rfl | lineFeed
    · obtain rfl : [] = before := Option.some.inj (parse?_nil.symm.trans read)
      show parse? b = (parse? b).map fun after => after
      rw [Option.map_id']
    · obtain ⟨front, rfl⟩ := List.getLast?_eq_some_iff.mp lineFeed
      rw [List.append_assoc]
      exact records?_append b read
  rw [whole]
  constructor
  · exact Option.map_eq_none_iff
  · intro after later
    rw [later]
    rfl

/-- A blank line, a stray quote, a text after a closing quote and a bare carriage return come
before the boundary, and a carriage return ends the text after it. -/
theorem parse?_append_sample :
    parse? "\na\"b,\"c\"d\re\r\n".toList = some [[""], ["a\"b", "cd\re"]] ∧
    parse? ("\na\"b,\"c\"d\re\r\n".toList ++ "f,\r".toList) =
      some [[""], ["a\"b", "cd\re"], ["f", "\r"]] ∧
    parse? ("\na\"b,\"c\"d\re\r\n".toList ++ "\"f\n".toList) = none := by
  have read : parse? "\na\"b,\"c\"d\re\r\n".toList = some [[""], ["a\"b", "cd\re"]] := by
    decide +kernel
  obtain ⟨-, continued⟩ := parse?_append (b := "f,\r".toList) read (.inr (by decide +kernel))
  obtain ⟨failed, -⟩ := parse?_append (b := "\"f\n".toList) read (.inr (by decide +kernel))
  exact ⟨read, continued [["f", "\r"]] (by decide +kernel), failed.mpr (by decide +kernel)⟩

end Append

end Uplift.Csv
