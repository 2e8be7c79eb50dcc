import Uplift.Json.Printer
import Uplift.Json.Reader
import Uplift.Proofs.Text.Digits

/-!
# JSON, written and read

A value that JSON has comes back from its text (`parse?_pretty`): null, truth values, whole numbers
of 64 bits, texts, and sequences and mappings of such values, if the keys are texts and nothing is
nested deeper than a reader goes (`Plain`).

Each part of a text is read whatever follows it, except that a number must not be followed by what
could belong to it. A reader's fuel is enough if it is at least the length of what is read.
-/

namespace Uplift.Json

open Text (NoDigit padded spelled)

variable {c : Char} {fuel depth level n : Nat} {acc s rest : List Char} {v : Value}

/-! ## Blanks -/

theorem skipSpace_append (blank : ∀ c ∈ s, isSpace c = true) (rest : List Char) :
    skipSpace (s ++ rest) = skipSpace rest := List.dropWhile_append_of_pos blank

theorem skipSpace_cons (solid : isSpace c = false) : skipSpace (c :: rest) = c :: rest :=
  List.dropWhile_cons_of_neg (by simp [solid])

theorem isSpace_of_mem_newLine (member : c ∈ (newLine level).toList) : isSpace c = true := by
  have chars : c ∈ '\n' :: List.replicate (2 * level) ' ' := by simpa [newLine] using member
  rcases List.mem_cons.mp chars with rfl | blank
  · decide
  · rw [List.eq_of_mem_replicate blank]
    decide

theorem value?_skipSpace (fuel depth : Nat) (s : List Char) :
    value? fuel depth (skipSpace s) = value? fuel depth s := by
  have idem : skipSpace (skipSpace s) = skipSpace s := List.dropWhile_idempotent ..
  cases fuel with
  | zero => rfl
  | succ fuel => rw [value?, value?, idem]

/-! ## Strings -/

theorem hexDigit?_hexChar (small : n < 16) : hexDigit? (hexChar n) = some n := by
  have all : ∀ n < 16, hexDigit? (hexChar n) = some n := by decide
  exact all n small

/-- Two digits after two zeros are a character of one byte. -/
theorem escape?_control (low : c.toNat < 0x20) (rest : List Char) :
    escape? ('u' :: '0' :: '0' :: hexChar (c.toNat / 16) :: hexChar (c.toNat % 16) :: rest) =
      some (c, rest) := by
  have high := hexDigit?_hexChar (n := c.toNat / 16) (by omega)
  have last := hexDigit?_hexChar (n := c.toNat % 16) (by omega)
  have number : hex4? ('0' :: '0' :: hexChar (c.toNat / 16) :: hexChar (c.toNat % 16) :: rest) =
      some (c.toNat, rest) := by
    have zero : hexDigit? '0' = some 0 := rfl
    have whole : c.toNat / 16 * 16 + c.toNat % 16 = c.toNat := by omega
    simp [hex4?, zero, high, last, whole]
  have noHigh : ¬ (0xD800 ≤ c.toNat ∧ c.toNat < 0xDC00) := by omega
  have noLow : ¬ (0xDC00 ≤ c.toNat ∧ c.toNat < 0xE000) := by omega
  rw [escape?, number]
  simp [noHigh, noLow]

/-- A character is read as it is written. -/
theorem string?_escapeChar (c : Char) (fuel : Nat) (acc rest : List Char) :
    string? (fuel + 1) acc (escapeChar c ++ rest) = string? fuel (c :: acc) rest := by
  unfold escapeChar
  split
  iterate 7 rfl
  next quote backslash _ _ _ _ _ =>
    split
    · next low =>
      show (escape? ('u' :: '0' :: '0' :: _ :: _ :: rest) >>= _) = _
      rw [escape?_control low]
      rfl
    · next printable =>
      rw [List.singleton_append, string?, if_neg printable]
      · exact quote
      · exact backslash

theorem string?_escaped (s : List Char) (enough : s.length < fuel) (acc rest : List Char) :
    string? fuel acc (s.flatMap escapeChar ++ '"' :: rest) =
      some (String.ofList (acc.reverse ++ s), rest) := by
  induction s generalizing fuel acc with
  | nil =>
    obtain ⟨fuel, rfl⟩ := Nat.exists_eq_succ_of_ne_zero (Nat.ne_of_gt enough)
    rw [List.append_nil]
    rfl
  | cons c s ih =>
    obtain ⟨fuel, rfl⟩ := Nat.exists_eq_succ_of_ne_zero (Nat.ne_zero_of_lt enough)
    rw [List.flatMap_cons, List.append_assoc, string?_escapeChar,
      ih (Nat.lt_of_succ_lt_succ enough)]
    simp

theorem toList_quoted (t : String) :
    (quoted t).toList = '"' :: (t.toList.flatMap escapeChar ++ ['"']) := by
  simp [quoted]

/-- The reader of a text gives itself enough fuel. -/
theorem string?_quoted (t : String) (rest : List Char) :
    string? ((t.toList.flatMap escapeChar ++ '"' :: rest).length + 1) []
      (t.toList.flatMap escapeChar ++ '"' :: rest) = some (t, rest) := by
  have each : ∀ s : List Char, s.length ≤ (s.flatMap escapeChar).length := by
    intro s
    induction s with
    | nil => exact Nat.le_refl _
    | cons c s ih =>
      have some : 1 ≤ (escapeChar c).length := by
        unfold escapeChar
        split <;> try simp
        split <;> simp
      rw [List.flatMap_cons, List.length_append, List.length_cons]
      omega
  have enough := each t.toList
  rw [string?_escaped]
  · simp
  · rw [List.length_append]
    omega

/-! ## Whole numbers -/

/-- What follows a number cannot belong to it. -/
def EndsNumber (rest : List Char) : Prop :=
  ∀ c ∈ rest.head?, c.isDigit = false ∧ c ≠ '.' ∧ c ≠ 'e' ∧ c ≠ 'E'

theorem EndsNumber.noDigit (ends : EndsNumber rest) : NoDigit rest :=
  fun c first => (ends c first).1

theorem le_spelled (n : Nat) (ds : List Char) : n ≤ spelled n ds := by
  induction ds generalizing n with
  | nil => exact Nat.le_refl _
  | cons d ds ih => exact le_trans (by omega) (ih (n * 10 + (d.toNat - '0'.toNat)))

/-- All the digits of a number of 64 bits fit. -/
theorem fitting_spelled (ds : List Char) (small : spelled n ds < Nat.pow 2 64) :
    fitting n ds = (spelled n ds, 0) := by
  induction ds generalizing n with
  | nil => rfl
  | cons d ds ih =>
    have next : n * 10 + (d.toNat - '0'.toNat) < Nat.pow 2 64 :=
      lt_of_le_of_lt (le_spelled _ ds) small
    rw [fitting]
    simp only [if_pos next]
    exact ih small

/-- The digits of a number are read as that number. -/
theorem number?_toDigits (small : n < Nat.pow 2 64) (ends : EndsNumber rest) (negative : Bool)
    (signed : negative = true → 0 < n ∧ n ≤ Nat.pow 2 63) :
    number? negative (Nat.toDigits 10 n ++ rest) =
      some (.int (if negative then -n else n), rest) := by
  have value : spelled 0 (Nat.toDigits 10 n) = n := Text.spelled_padded 0 n
  have digit : ∀ c ∈ Nat.toDigits 10 n, c.isDigit = true := fun c =>
    Nat.isDigit_of_mem_toDigits (by decide) (by decide)
  have cut : digits (Nat.toDigits 10 n ++ rest) = (Nat.toDigits 10 n, rest) := by
    rw [digits, List.span_eq_takeWhile_dropWhile, Text.takeWhile_digits digit ends.noDigit,
      Text.dropWhile_digits digit ends.noDigit]
  have fits : fitting 0 (Nat.toDigits 10 n) = (n, 0) := by
    rw [fitting_spelled _ (by rw [value]; exact small), value]
  have proper : ¬ ((Nat.toDigits 10 n).isEmpty ∨
      (Nat.toDigits 10 n).length > 1 ∧ (Nat.toDigits 10 n).head? = some '0') := by
    rintro (none | ⟨long, zero⟩)
    · simp [Nat.toDigits_ne_nil] at none
    · rcases Nat.eq_zero_or_pos n with rfl | positive
      · simp [Nat.toDigits_zero] at long
      · exact Text.head?_toDigits positive zero
  rw [number?, cut]
  simp only [if_neg proper, fits]
  split
  · exact absurd rfl (ends '.' rfl).2.1
  · exact absurd rfl (ends 'e' rfl).2.2.1
  · exact absurd rfl (ends 'E' rfl).2.2.2
  · cases negative with
    | false => simp
    | true =>
      obtain ⟨positive, small⟩ := signed rfl
      have proper : ¬ (n = 0 ∨ n > Nat.pow 2 63) := by omega
      simp [proper]

theorem value?_toDigits (small : n < Nat.pow 2 64) (ends : EndsNumber rest) :
    value? (fuel + 1) depth (Nat.toDigits 10 n ++ rest) = some (.int n, rest) := by
  obtain ⟨c, ds, split⟩ := List.exists_cons_of_ne_nil (Nat.toDigits_ne_nil (b := 10) (n := n))
  have digit : c.isDigit = true :=
    Nat.isDigit_of_mem_toDigits (b := 10) (n := n) (by decide) (by decide) (by simp [split])
  have number : value? (fuel + 1) depth (c :: (ds ++ rest)) =
      number? false (c :: (ds ++ rest)) := by
    have solid : isSpace c = false := by
      by_contra blank
      simp only [Bool.not_eq_false, isSpace, Bool.or_eq_true, decide_eq_true_eq] at blank
      rcases blank with ((rfl | rfl) | rfl) | rfl <;> cases digit
    rw [value?, skipSpace_cons solid]
    split <;> simp_all
  have read := number?_toDigits small ends false (fun signed => nomatch signed)
  rw [split, List.cons_append] at read ⊢
  rw [number, read]
  rfl

theorem value?_int {m : Int} (low : -2 ^ 63 ≤ m) (high : m < 2 ^ 64)
    (ends : EndsNumber rest) :
    value? (fuel + 1) depth ((toString m).toList ++ rest) = some (.int m, rest) := by
  have bits : Nat.pow 2 64 = 2 ^ 64 ∧ Nat.pow 2 63 = 2 ^ 63 := ⟨rfl, rfl⟩
  rw [Int.toString_eq_repr, Int.repr_eq_if]
  split
  · next natural =>
    rw [Nat.toList_repr, value?_toDigits (by omega) ends, Int.toNat_of_nonneg natural]
  · next negative =>
    have text : ("-" ++ (-m).toNat.repr).toList = '-' :: Nat.toDigits 10 (-m).toNat := by simp
    have read := number?_toDigits (n := (-m).toNat) (by omega) ends true fun _ => by omega
    have value : (-((-m).toNat : Int)) = m := by omega
    rw [if_pos rfl, value] at read
    rw [text]
    exact read

/-! ## Values -/

/-- A value that JSON has, with at most `depth` sequences and mappings around each other. -/
inductive Plain : (depth : Nat) → Value → Prop
  | null {depth : Nat} : Plain depth .null
  | bool {depth : Nat} {b : Bool} : Plain depth (.bool b)
  | int {depth : Nat} {m : Int} (low : -2 ^ 63 ≤ m) (high : m < 2 ^ 64) :
    Plain depth (.int m)
  | str {depth : Nat} {t : String} : Plain depth (.str t)
  | seq {depth : Nat} {items : List Value} (each : ∀ v ∈ items, Plain depth v) :
    Plain (depth + 1) (.seq items)
  | record {depth : Nat} {fields : List (String × Value)} (each : ∀ f ∈ fields, Plain depth f.2) :
    Plain (depth + 1) (.record fields)

attribute [simp] Plain.null Plain.bool Plain.str

theorem Plain.strings (ts : List String) : Plain (depth + 1) (.strings ts) := by
  refine .seq fun v member => ?_
  obtain ⟨t, -, rfl⟩ := List.mem_map.mp member
  exact .str

theorem Plain.mono {more : Nat} (plain : Plain depth v) (deeper : depth ≤ more) : Plain more v := by
  induction plain generalizing more with
  | null => exact .null
  | bool => exact .bool
  | int low high => exact .int low high
  | str => exact .str
  | seq _ ih =>
    obtain ⟨more, rfl⟩ := Nat.exists_eq_succ_of_ne_zero (Nat.ne_zero_of_lt deeper)
    exact .seq fun v member => ih v member (Nat.le_of_succ_le_succ deeper)
  | record _ ih =>
    obtain ⟨more, rfl⟩ := Nat.exists_eq_succ_of_ne_zero (Nat.ne_zero_of_lt deeper)
    exact .record fun f member => ih f member (Nat.le_of_succ_le_succ deeper)

/-- The text of a value is read as the value, at any level and whatever follows it. -/
def ReadsBack (depth : Nat) (v : Value) : Prop :=
  ∀ fuel level rest, (prettyAt level v).toList.length ≤ fuel → EndsNumber rest →
    value? (fuel + 1) depth ((prettyAt level v).toList ++ rest) = some (v, rest)

theorem value?_blank (blank : ∀ c ∈ s, isSpace c = true) :
    value? fuel depth (s ++ rest) = value? fuel depth rest := by
  rw [← value?_skipSpace, skipSpace_append blank, value?_skipSpace]

theorem endsNumber_newLine (level : Nat) (rest : List Char) :
    EndsNumber ((newLine level).toList ++ rest) := by
  have first : ((newLine level).toList ++ rest).head? = some '\n' := by simp [newLine]
  intro c head
  rw [first] at head
  obtain rfl := Option.some.inj head
  decide

/-- What closes a sequence or a mapping stands on a line of its own. -/
theorem skipSpace_newLine (solid : isSpace c = false) :
    skipSpace ((newLine level).toList ++ c :: rest) = c :: rest := by
  rw [skipSpace_append fun c => isSpace_of_mem_newLine, skipSpace_cons solid]

theorem one_le_newLine (level : Nat) : 1 ≤ (newLine level).toList.length := by simp [newLine]

theorem readsBack_null : ReadsBack depth .null := by
  intro fuel level rest _ _
  have text : (prettyAt level .null).toList = ['n', 'u', 'l', 'l'] := by simp [prettyAt, scalarText]
  rw [text]
  rfl

theorem readsBack_bool (b : Bool) : ReadsBack depth (.bool b) := by
  intro fuel level rest _ _
  cases b with
  | false =>
    have text : (prettyAt level (.bool false)).toList = ['f', 'a', 'l', 's', 'e'] := by
      simp [prettyAt, scalarText]
    rw [text]
    rfl
  | true =>
    have text : (prettyAt level (.bool true)).toList = ['t', 'r', 'u', 'e'] := by
      simp [prettyAt, scalarText]
    rw [text]
    rfl

theorem readsBack_str (t : String) : ReadsBack depth (.str t) := by
  intro fuel level rest _ _
  have text : (prettyAt level (.str t)).toList ++ rest =
      '"' :: (t.toList.flatMap escapeChar ++ '"' :: rest) := by
    simp [prettyAt, toList_quoted]
  rw [text, value?, skipSpace_cons (by decide)]
  show (string? _ [] _).map _ = _
  rw [string?_quoted]
  rfl

/-! ### Sequences -/

theorem items?_skipSpace (fuel depth : Nat) (acc : List Value) (s : List Char) :
    items? fuel depth acc (skipSpace s) = items? fuel depth acc s := by
  cases fuel with
  | zero => rfl
  | succ fuel => rw [items?, items?, value?_skipSpace]

/-- A bracket is no value. -/
theorem items?_bracket (fuel depth : Nat) (acc : List Value) (rest : List Char) :
    items? fuel depth acc (']' :: rest) = none := by
  match fuel with
  | 0 | 1 | _ + 2 => rfl

/-- One item, and after it what it is followed by. -/
theorem items?_item (readsBack : ReadsBack depth v) (acc : List Value) (ends : EndsNumber rest)
    (enough : (prettyAt level v).toList.length ≤ fuel) :
    items? (fuel + 2) depth acc ((newLine level).toList ++ ((prettyAt level v).toList ++ rest)) =
      match skipSpace rest with
      | ',' :: rest => items? (fuel + 1) depth (v :: acc) rest
      | ']' :: rest => some ((v :: acc).reverse, rest)
      | _ => none := by
  rw [items?, value?_blank fun c => isSpace_of_mem_newLine, readsBack fuel level rest enough ends]
  rfl

theorem items?_pretty {items : List Value} (each : ∀ v ∈ items, ReadsBack depth v)
    (filled : items ≠ []) (acc : List Value) (outer : Nat) (rest : List Char)
    (enough : (prettyItems level items).toList.length ≤ fuel) :
    items? (fuel + 1) depth acc
        ((prettyItems level items).toList ++ ((newLine outer).toList ++ ']' :: rest)) =
      some (acc.reverse ++ items, rest) := by
  induction items generalizing fuel acc with
  | nil => exact absurd rfl filled
  | cons v items ih =>
    obtain ⟨readsBack, each⟩ := List.forall_mem_cons.mp each
    have margin := one_le_newLine level
    cases items with
    | nil =>
      simp only [prettyItems, String.toList_append, List.length_append] at enough
      obtain ⟨fuel, rfl⟩ := Nat.exists_eq_succ_of_ne_zero (n := fuel) (by omega)
      rw [prettyItems, String.toList_append, List.append_assoc,
        items?_item readsBack acc (endsNumber_newLine outer _) (by omega),
        skipSpace_newLine (by decide)]
      simp
    | cons w items =>
      have layout : (prettyItems level (v :: w :: items)).toList ++
          ((newLine outer).toList ++ ']' :: rest) = (newLine level).toList ++
            ((prettyAt level v).toList ++ ',' :: ((prettyItems level (w :: items)).toList ++
              ((newLine outer).toList ++ ']' :: rest))) := by
        simp [prettyItems]
      simp only [prettyItems, String.toList_append, List.length_append] at enough
      obtain ⟨fuel, rfl⟩ := Nat.exists_eq_succ_of_ne_zero (n := fuel) (by omega)
      rw [layout, items?_item readsBack acc (by simp [EndsNumber]) (by omega),
        skipSpace_cons (by decide)]
      show items? (fuel + 1) depth (v :: acc) _ = _
      rw [ih each (by simp) (v :: acc) (by omega)]
      simp

/-- A sequence is empty, or its items are read from behind the bracket. -/
theorem value?_bracket (fuel depth : Nat) (s : List Char) :
    value? (fuel + 1) (depth + 1) ('[' :: s) =
      match skipSpace s with
      | ']' :: rest => some (.seq [], rest)
      | rest => (items? fuel depth [] rest).map fun (vs, rest) => (.seq vs, rest) := rfl

theorem readsBack_seq {items : List Value} (each : ∀ v ∈ items, ReadsBack depth v) :
    ReadsBack (depth + 1) (.seq items) := by
  intro fuel level rest enough _
  cases items with
  | nil =>
    have text : (prettyAt level (.seq [])).toList = ['[', ']'] := by simp [prettyAt]
    rw [text]
    rfl
  | cons v items =>
    have layout : (prettyAt level (.seq (v :: items))).toList ++ rest =
        '[' :: ((prettyItems (level + 1) (v :: items)).toList ++
          ((newLine level).toList ++ ']' :: rest)) := by
      simp [prettyAt]
    have lengths := congrArg List.length layout
    simp only [List.length_append, List.length_cons] at lengths
    obtain ⟨fuel, rfl⟩ := Nat.exists_eq_succ_of_ne_zero (n := fuel) (by omega)
    have read := items?_pretty each (by simp) [] level rest
      (show (prettyItems (level + 1) (v :: items)).toList.length ≤ fuel by omega)
    rw [← items?_skipSpace] at read
    rw [layout, value?_bracket]
    split
    · next bracket =>
      rw [bracket, items?_bracket] at read
      cases read
    · rw [read]
      rfl

/-! ### Mappings -/

/-- The entries of a mapping with text keys. -/
def entriesOf (fields : List (String × Value)) : List (Value × Value) :=
  fields.map fun (k, v) => (.str k, v)

theorem entries?_skipSpace (fuel depth : Nat) (acc : List (Value × Value)) (s : List Char) :
    entries? fuel depth acc (skipSpace s) = entries? fuel depth acc s := by
  have idem : skipSpace (skipSpace s) = skipSpace s := List.dropWhile_idempotent ..
  cases fuel with
  | zero => rfl
  | succ fuel => rw [entries?, entries?, idem]

/-- One entry, and after it what its value is followed by. -/
theorem entries?_entry (readsBack : ReadsBack depth v) (key : String)
    (acc : List (Value × Value)) (ends : EndsNumber rest)
    (enough : (prettyAt level v).toList.length ≤ fuel) :
    entries? (fuel + 2) depth acc ((newLine level).toList ++
        ((quoted key).toList ++ ':' :: ' ' :: ((prettyAt level v).toList ++ rest))) =
      match skipSpace rest with
      | ',' :: rest => entries? (fuel + 1) depth ((.str key, v) :: acc) rest
      | '\x7d' :: rest => some (((.str key, v) :: acc).reverse, rest)
      | _ => none := by
  have text : (quoted key).toList ++ ':' :: ' ' :: ((prettyAt level v).toList ++ rest) =
      '"' :: (key.toList.flatMap escapeChar ++
        '"' :: ':' :: ' ' :: ((prettyAt level v).toList ++ rest)) := by
    simp [toList_quoted]
  have value : value? (fuel + 1) depth (' ' :: ((prettyAt level v).toList ++ rest)) =
      some (v, rest) := by
    rw [← List.singleton_append, value?_blank (by simp [isSpace])]
    exact readsBack fuel level rest enough ends
  rw [text, entries?, skipSpace_newLine (by decide)]
  show (string? _ [] _ >>= _) = _
  rw [string?_quoted]
  show (value? (fuel + 1) depth (' ' :: ((prettyAt level v).toList ++ rest)) >>= _) = _
  rw [value]
  rfl

theorem entries?_pretty {fields : List (String × Value)}
    (each : ∀ f ∈ fields, ReadsBack depth f.2) (filled : fields ≠ [])
    (acc : List (Value × Value)) (outer : Nat) (rest : List Char)
    (enough : (prettyEntries level (entriesOf fields)).toList.length ≤ fuel) :
    entries? (fuel + 1) depth acc ((prettyEntries level (entriesOf fields)).toList ++
        ((newLine outer).toList ++ '\x7d' :: rest)) =
      some (acc.reverse ++ entriesOf fields, rest) := by
  induction fields generalizing fuel acc with
  | nil => exact absurd rfl filled
  | cons f fields ih =>
    obtain ⟨key, v⟩ := f
    obtain ⟨readsBack, each⟩ := List.forall_mem_cons.mp each
    have margin := one_le_newLine level
    cases fields with
    | nil =>
      have layout (tail : List Char) : (prettyEntries level (entriesOf [(key, v)])).toList ++ tail =
          (newLine level).toList ++
            ((quoted key).toList ++ ':' :: ' ' :: ((prettyAt level v).toList ++ tail)) := by
        simp [prettyEntries, entriesOf, keyText]
      have lengths := congrArg List.length (layout [])
      simp only [List.length_append, List.length_cons, List.length_nil] at lengths
      obtain ⟨fuel, rfl⟩ := Nat.exists_eq_succ_of_ne_zero (n := fuel) (by omega)
      rw [layout, entries?_entry (v := v) readsBack key acc (endsNumber_newLine outer _) (by omega),
        skipSpace_newLine (by decide)]
      simp [entriesOf]
    | cons g fields =>
      have layout (tail : List Char) :
          (prettyEntries level (entriesOf ((key, v) :: g :: fields))).toList ++ tail =
            (newLine level).toList ++ ((quoted key).toList ++ ':' :: ' ' ::
              ((prettyAt level v).toList ++
                ',' :: ((prettyEntries level (entriesOf (g :: fields))).toList ++ tail))) := by
        simp [prettyEntries, entriesOf, keyText]
      have lengths := congrArg List.length (layout [])
      simp only [List.length_append, List.length_cons, List.length_nil] at lengths
      obtain ⟨fuel, rfl⟩ := Nat.exists_eq_succ_of_ne_zero (n := fuel) (by omega)
      rw [layout, entries?_entry (v := v) readsBack key acc (by simp [EndsNumber]) (by omega),
        skipSpace_cons (by decide)]
      show entries? (fuel + 1) depth ((.str key, v) :: acc) _ = _
      rw [ih each (by simp) ((.str key, v) :: acc) (by omega)]
      simp [entriesOf]

/-- A mapping is empty, or its entries are read from behind the brace. -/
theorem value?_brace (fuel depth : Nat) (s : List Char) :
    value? (fuel + 1) (depth + 1) ('\x7b' :: s) =
      match skipSpace s with
      | '\x7d' :: rest => some (.map [], rest)
      | rest => (entries? fuel depth [] rest).map fun (es, rest) => (.map es, rest) := rfl

theorem readsBack_record {fields : List (String × Value)}
    (each : ∀ f ∈ fields, ReadsBack depth f.2) : ReadsBack (depth + 1) (.record fields) := by
  intro fuel level rest enough _
  cases fields with
  | nil =>
    have text : (prettyAt level (.record [])).toList = ['\x7b', '\x7d'] := by
      simp [prettyAt, Value.record]
    rw [text]
    rfl
  | cons f fields =>
    have layout : (prettyAt level (.record (f :: fields))).toList ++ rest =
        '\x7b' :: ((prettyEntries (level + 1) (entriesOf (f :: fields))).toList ++
          ((newLine level).toList ++ '\x7d' :: rest)) := by
      simp [prettyAt, Value.record, entriesOf]
    have lengths := congrArg List.length layout
    simp only [List.length_append, List.length_cons] at lengths
    obtain ⟨fuel, rfl⟩ := Nat.exists_eq_succ_of_ne_zero (n := fuel) (by omega)
    have read := entries?_pretty each (by simp) [] level rest
      (show (prettyEntries (level + 1) (entriesOf (f :: fields))).toList.length ≤ fuel by omega)
    rw [← entries?_skipSpace] at read
    rw [layout, value?_brace]
    split
    · next brace =>
      rw [brace] at read
      cases read
    · rw [read]
      rfl

/-! ### All values -/

/-- The text of a value that JSON has is read as that value. -/
theorem Plain.readsBack (plain : Plain depth v) : ReadsBack depth v := by
  induction plain with
  | null => exact readsBack_null
  | @bool depth b => exact readsBack_bool b
  | int low high =>
    intro fuel level rest _ ends
    exact value?_int low high ends
  | @str depth t => exact readsBack_str t
  | seq _ ih => exact readsBack_seq ih
  | record _ ih => exact readsBack_record ih

/-- **A value that JSON has comes back from its text.** -/
theorem parse?_pretty (plain : Plain maxDepth v) : parse? (pretty v) = some v := by
  have read := plain.readsBack (2 * (pretty v).toList.length + 1) 0 [] (by rw [pretty]; omega)
    (by simp [EndsNumber])
  rw [List.append_nil] at read
  unfold parse? read?
  show (value? (2 * (pretty v).toList.length + 1 + 1) maxDepth (prettyAt 0 v).toList >>= _) = _
  rw [read]
  rfl

/-! ## Keys -/

theorem hasFormItems_eq_all (items : List Value) : hasFormItems items = items.all hasForm := by
  induction items with
  | nil => rfl
  | cons v items ih => rw [hasFormItems, List.all_cons, ih]

theorem hasFormEntries_entriesOf (fields : List (String × Value)) :
    hasFormEntries (entriesOf fields) = fields.all fun f => hasForm f.2 := by
  induction fields with
  | nil => rfl
  | cons f fields ih =>
    show (true && hasForm f.2 && hasFormEntries (entriesOf fields)) = _
    rw [ih, List.all_cons, Bool.true_and]

theorem Plain.hasForm (plain : Plain depth v) : hasForm v = true := by
  induction plain with
  | null | bool | int | str => rfl
  | @seq depth items _ ih =>
    show hasFormItems items = true
    rw [hasFormItems_eq_all, List.all_eq_true]
    exact ih
  | @record depth fields _ ih =>
    show hasFormEntries (entriesOf fields) = true
    rw [hasFormEntries_entriesOf, List.all_eq_true]
    exact ih

end Uplift.Json
