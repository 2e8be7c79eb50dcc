import Uplift.Proofs.Text.Bytes
import Uplift.Proofs.Text.Digits
import Uplift.Proofs.Text.Trim
import Uplift.Rpc.Frame

/-!
# Blocks of headers as they are written

Every way to write the headers of a message: which lines stand around the one that announces the
length, how that one is spelled, and how each line ends. A written line carries the proofs that it
is one. `HeaderBlock.headers_bytes` says that the announced length is read, and that reading stops
just behind the empty line.
-/

namespace Uplift.Rpc

open Text

/-! ## Lines -/

/-- How a line ends. -/
inductive LineEnd where
  | lineFeed
  | carriageReturn
deriving DecidableEq

/-- The characters at the end of a line. -/
def LineEnd.text : LineEnd → List Char
  | lineFeed => ['\n']
  | carriageReturn => ['\r', '\n']

/-- The bytes of a line. -/
def lineBytes (text : List Char) (ending : LineEnd) : List UInt8 :=
  toBytes (String.ofList (text ++ ending.text))

section Lines

variable {text : List Char} {length : Option Nat} {n : Nat}

theorem LineEnd.blank (ending : LineEnd) : isBlankText ending.text = true := by
  cases ending <;> decide

theorem cutLine_append_lineFeed {s : List UInt8} (oneLine : 10 ∉ s) (rest : List UInt8) :
    cutLine (s ++ 10 :: rest) = (s ++ [10], rest) := by
  induction s with
  | nil => simp [cutLine]
  | cons b s ih =>
    simp only [List.mem_cons, not_or] at oneLine
    simp [cutLine, Ne.symm oneLine.1, ih oneLine.2]

/-- A line is cut off where it ends. -/
theorem cutLine_lineBytes (oneLine : '\n' ∉ text) (ending : LineEnd) (rest : List UInt8) :
    cutLine (lineBytes text ending ++ rest) = (lineBytes text ending, rest) := by
  obtain ⟨front, noLineFeed, same⟩ :
      ∃ front, '\n' ∉ front ∧ text ++ ending.text = front ++ ['\n'] := by
    cases ending with
    | lineFeed => exact ⟨text, oneLine, rfl⟩
    | carriageReturn => exact ⟨text ++ ['\r'], by simp [oneLine], by simp [LineEnd.text]⟩
  have bytes : lineBytes text ending = toBytes (String.ofList front) ++ [10] := by
    have lineFeed : toBytes (String.ofList ['\n']) = [10] := by decide
    rw [lineBytes, same, String.ofList_append, toBytes_append, lineFeed]
  have noByte : 10 ∉ toBytes (String.ofList front) :=
    lineFeed_not_mem_toBytes (by simpa using noLineFeed)
  rw [bytes, List.append_assoc, List.singleton_append, cutLine_append_lineFeed noByte]

/-- The end of a line says nothing. -/
theorem parse_ended (text : List Char) (ending : LineEnd) :
    Header.parse (String.ofList (text ++ ending.text)) = Header.parse (String.ofList text) := by
  simp only [Header.parse, String.toList_ofList, trim_append_blank ending.blank]

/-- A line is there to be read, and is read as its text with its end. -/
theorem exists_cons_lineBytes (oneLine : '\n' ∉ text) (ending : LineEnd) (rest : List UInt8) :
    ∃ b tail, lineBytes text ending ++ rest = b :: tail ∧
      cutLine (b :: tail) = (lineBytes text ending, rest) ∧
      ofBytes? (lineBytes text ending) = some (String.ofList (text ++ ending.text)) := by
  have read := ofBytes?_toBytes (String.ofList (text ++ ending.text))
  have filled : lineBytes text ending ++ rest ≠ [] := by
    intro empty
    have noLine : lineBytes text ending = [] := (List.append_eq_nil_iff.mp empty).1
    rw [← lineBytes, noLine] at read
    have gone : String.ofList (text ++ ending.text) = "" := (Option.some.inj read).symm
    cases ending <;> simp [LineEnd.text] at gone
  obtain ⟨b, tail, split⟩ := List.exists_cons_of_ne_nil filled
  exact ⟨b, tail, split, split ▸ cutLine_lineBytes oneLine ending rest, read⟩

theorem headers_blank (oneLine : '\n' ∉ text) (ending : LineEnd) (rest : List UInt8)
    (said : Header.parse (String.ofList text) = .blank) :
    headers length (lineBytes text ending ++ rest) = (.ok length, rest) := by
  obtain ⟨b, tail, split, cut, read⟩ := exists_cons_lineBytes oneLine ending rest
  rw [split, headers]
  simp only [cut, read, parse_ended, said]

theorem headers_other (oneLine : '\n' ∉ text) (ending : LineEnd) (rest : List UInt8)
    (said : Header.parse (String.ofList text) = .other) :
    headers length (lineBytes text ending ++ rest) = headers length rest := by
  obtain ⟨b, tail, split, cut, read⟩ := exists_cons_lineBytes oneLine ending rest
  rw [split, headers]
  simp only [cut, read, parse_ended, said]

theorem headers_length (oneLine : '\n' ∉ text) (ending : LineEnd) (rest : List UInt8)
    (said : Header.parse (String.ofList text) = .length n) :
    headers length (lineBytes text ending ++ rest) = headers (some n) rest := by
  obtain ⟨b, tail, split, cut, read⟩ := exists_cons_lineBytes oneLine ending rest
  rw [split, headers]
  simp only [cut, read, parse_ended, said]

end Lines

/-! ## The three kinds of lines -/

/-- Blanks within a line. -/
structure Padding where
  text : List Char
  blank : isBlankText text = true
  oneLine : '\n' ∉ text

/-- No blanks. -/
def Padding.none : Padding := ⟨[], isBlankText_nil, by decide⟩

/-- One space. -/
def Padding.space : Padding := ⟨[' '], by decide, by decide⟩

/-- An empty line. -/
structure EmptyLine where
  padding : Padding := .none
  ending : LineEnd

/-- A header that is not looked at: whatever its name is, if it has one, it is not that of the
length. -/
structure OtherLine where
  text : List Char
  ending : LineEnd
  oneLine : '\n' ∉ text
  filled : isBlankText text = false
  other : ∀ name value, trim text = name ++ ':' :: value → ':' ∉ name →
    sameAscii (String.ofList name) lengthHeader = false

variable {n : Nat}

/-- A number as it may be written: with zeros before it, and with a plus sign. -/
structure Numeral (n : Nat) where
  plus : Bool := false
  zeros : Nat := 0

/-- The characters of a numeral after its sign. -/
def Numeral.digits (m : Numeral n) : List Char := List.replicate m.zeros '0' ++ Nat.toDigits 10 n

/-- The text of a numeral. -/
def Numeral.text (m : Numeral n) : List Char := (if m.plus then ['+'] else []) ++ m.digits

/-- The header that announces a length. -/
structure LengthLine (n : Nat) where
  indent : Padding := .none
  /-- The name, in any letter case. -/
  name : List Char := "Content-Length".toList
  named : sameAscii (String.ofList name) lengthHeader = true := by decide
  before : Padding := .none
  numeral : Numeral n := {}
  after : Padding := .none
  ending : LineEnd

/-- The bytes of an empty line. -/
def EmptyLine.bytes (l : EmptyLine) : List UInt8 := lineBytes l.padding.text l.ending

/-- The bytes of a header. -/
def OtherLine.bytes (l : OtherLine) : List UInt8 := lineBytes l.text l.ending

/-- The text of the header, without the blanks around it. -/
def LengthLine.core (l : LengthLine n) : List Char :=
  l.name ++ ':' :: (l.before.text ++ l.numeral.text)

/-- The text of the header. -/
def LengthLine.text (l : LengthLine n) : List Char :=
  l.indent.text ++ (l.core ++ l.after.text)

/-- The bytes of the header. -/
def LengthLine.bytes (l : LengthLine n) : List UInt8 := lineBytes l.text l.ending

theorem EmptyLine.headers_bytes (l : EmptyLine) (length : Option Nat) (rest : List UInt8) :
    headers length (l.bytes ++ rest) = (.ok length, rest) := by
  refine headers_blank l.padding.oneLine l.ending rest ?_
  simp [Header.parse, trim_eq_nil_iff.mpr l.padding.blank]

theorem OtherLine.headers_bytes (l : OtherLine) (length : Option Nat) (rest : List UInt8) :
    headers length (l.bytes ++ rest) = headers length rest := by
  refine headers_other l.oneLine l.ending rest ?_
  have filled : (trim l.text).isEmpty = false := by
    rw [List.isEmpty_eq_false_iff]
    intro empty
    cases (trim_eq_nil_iff.mp empty).symm.trans l.filled
  simp only [Header.parse, String.toList_ofList, filled, Bool.false_eq_true, if_false]
  cases split : splitOnce ':' (trim l.text) with
  | none => rfl
  | some parts =>
    obtain ⟨name, value⟩ := parts
    obtain ⟨same, noColon⟩ := eq_of_splitOnce split
    simp [l.other name value same noColon]

/-! ## The announced length -/

theorem Numeral.isDigit_of_mem (m : Numeral n) {c : Char} (member : c ∈ m.digits) :
    c.isDigit = true := isDigit_of_mem_padded member

theorem Numeral.digits_ne_nil (m : Numeral n) : m.digits ≠ [] := padded_ne_nil

/-- Zeros before a number do not change it. -/
theorem Numeral.value (m : Numeral n) :
    m.digits.foldl (fun n c => n * 10 + (c.toNat - '0'.toNat)) 0 = n :=
  spelled_padded m.zeros n

/-- No character of a numeral is a blank. -/
theorem Numeral.not_isBlank_of_mem (m : Numeral n) {c : Char} (member : c ∈ m.text) :
    isBlank c = false := by
  rcases List.mem_append.mp member with sign | digit
  · split at sign
    · rw [List.mem_singleton.mp sign]
      decide
    · cases sign
  · have digit := m.isDigit_of_mem digit
    have codes : 48 ≤ c.toNat ∧ c.toNat ≤ 57 := by
      simpa [Char.isDigit, UInt32.le_iff_toNat_le] using digit
    by_contra blank
    simp only [Bool.not_eq_false, isBlank, Bool.or_eq_true, Bool.and_eq_true, decide_eq_true_eq,
      beq_iff_eq] at blank
    omega

/-- A sign is no digit. -/
theorem Numeral.digits_ne_plus (m : Numeral n) (ds : List Char) : m.digits ≠ '+' :: ds := by
  intro split
  cases m.isDigit_of_mem (c := '+') (by simp [split])

theorem Numeral.number?_text (m : Numeral n) (fits : n < Nat.pow 2 64) :
    number? m.text = some n := by
  have all : m.digits.all Char.isDigit = true :=
    List.all_eq_true.mpr fun c member => m.isDigit_of_mem member
  have filled : m.digits.isEmpty = false := List.isEmpty_eq_false_iff.mpr m.digits_ne_nil
  cases sign : m.plus with
  | true =>
    have text : m.text = '+' :: m.digits := by simp [text, sign]
    rw [text, number?]
    simp only [all, filled, m.value, Nat.not_le.mpr fits, Bool.not_true, Bool.or_false,
      decide_false, Bool.false_eq_true, if_false]
  | false =>
    have text : m.text = m.digits := by simp [text, sign]
    rw [text, number?]
    · simp only [all, filled, m.value, Nat.not_le.mpr fits, Bool.not_true, Bool.or_false,
        decide_false, Bool.false_eq_true, if_false]
    · exact m.digits_ne_plus

/-- Of the characters of the name that announces a length, none is a blank or a colon. -/
theorem solid_of_named {name : List Char}
    (named : sameAscii (String.ofList name) lengthHeader = true) {c : Char} (member : c ∈ name) :
    isBlank c = false ∧ c ≠ ':' := by
  have lowered : name.map Char.toLower = lengthHeader.toList.map Char.toLower := by
    simpa [sameAscii] using named
  have letter : c.toLower ∈ lengthHeader.toList.map Char.toLower :=
    lowered ▸ List.mem_map_of_mem member
  have solid : (lengthHeader.toList.map Char.toLower).all
      (fun d => isBlank d = false ∧ d ≠ ':') = true := by decide
  unfold Char.toLower at letter
  split at letter
  -- A capital letter is neither, whatever its small letter is.
  · next upper =>
    have codes : 65 ≤ c.toNat ∧ c.toNat ≤ 90 := by
      simpa [UInt32.le_iff_toNat_le] using upper
    constructor
    · by_contra blank
      simp only [Bool.not_eq_false, isBlank, Bool.or_eq_true, Bool.and_eq_true, decide_eq_true_eq,
        beq_iff_eq] at blank
      omega
    · rintro rfl
      exact absurd codes (by decide)
  · exact of_decide_eq_true (List.all_eq_true.mp solid c letter)

namespace LengthLine

variable (l : LengthLine n)

theorem name_ne_nil : l.name ≠ [] := by
  intro empty
  have named := l.named
  rw [empty] at named
  exact absurd named (by decide)

theorem trimmed_numeral : Trimmed l.numeral.text := by
  refine .of_all ?_ fun c => l.numeral.not_isBlank_of_mem
  simp [Numeral.text, l.numeral.digits_ne_nil]

theorem trimmed_core : Trimmed l.core := by
  have name : Trimmed l.name :=
    .of_all l.name_ne_nil fun c member => (solid_of_named l.named member).1
  have whole := name.append l.trimmed_numeral (':' :: l.before.text)
  rwa [List.cons_append] at whole

/-- The header announces its length. -/
theorem parse_text (fits : n < Nat.pow 2 64) :
    Header.parse (String.ofList l.text) = .length n := by
  have trimmed : trim l.text = l.core :=
    trim_padded l.indent.blank l.trimmed_core l.after.blank
  have filled : l.core.isEmpty = false := by
    rw [List.isEmpty_eq_false_iff]
    simp [core]
  have split : splitOnce ':' l.core = some (l.name, l.before.text ++ l.numeral.text) :=
    splitOnce_append fun colon => (solid_of_named l.named colon).2 rfl
  have value : trim (l.before.text ++ l.numeral.text) = l.numeral.text := by
    have padded := trim_padded l.before.blank l.trimmed_numeral (b := []) rfl
    rwa [List.append_nil] at padded
  simp only [Header.parse, String.toList_ofList, trimmed, filled, split, l.named, value,
    l.numeral.number?_text fits, Bool.false_eq_true, if_false, if_true]

theorem oneLine : '\n' ∉ l.text := by
  have blank : isBlank '\n' = true := by decide
  have core : '\n' ∉ l.core := by
    intro member
    rcases List.mem_append.mp member with name | rest
    · cases (solid_of_named l.named name).1.symm.trans blank
    · rcases List.mem_cons.mp rest with colon | rest
      · cases colon
      · rcases List.mem_append.mp rest with before | numeral
        · exact l.before.oneLine before
        · cases (l.numeral.not_isBlank_of_mem numeral).symm.trans blank
  simp [text, l.indent.oneLine, l.after.oneLine, core]

theorem headers_bytes (fits : n < Nat.pow 2 64) (length : Option Nat) (rest : List UInt8) :
    headers length (l.bytes ++ rest) = headers (some n) rest :=
  headers_length l.oneLine l.ending rest (l.parse_text fits)

end LengthLine

end Uplift.Rpc
