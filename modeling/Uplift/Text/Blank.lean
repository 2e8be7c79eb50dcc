/-! # Blanks

The white space of free text, and the two functions that cut it off.

* `isBlank` is the Unicode property White_Space.
* `splitOnce_append`: a text without the separator, the separator and any text are told apart again.
-/

namespace Uplift.Text

/-- A character with the Unicode property White_Space. -/
def isBlank (c : Char) : Bool :=
  let n := c.toNat
  (0x09 ≤ n && n ≤ 0x0D) || n == 0x20 || n == 0x85 || n == 0xA0 || n == 0x1680 ||
    (0x2000 ≤ n && n ≤ 0x200A) || n == 0x2028 || n == 0x2029 || n == 0x202F ||
    n == 0x205F || n == 0x3000

/-- An ASCII letter or digit. -/
def isAsciiAlnum (c : Char) : Bool := c.isAlphanum

/-- The text without its leading blanks. -/
def trimStart (s : List Char) : List Char := s.dropWhile isBlank

/-- The text without its trailing blanks. -/
def trimEnd (s : List Char) : List Char := (s.reverse.dropWhile isBlank).reverse

/-- The text without the blanks around it. -/
def trim (s : List Char) : List Char := trimEnd (trimStart s)

/-- `trim` on strings. -/
def trimmed (s : String) : String := String.ofList (trim s.toList)

/-- There is nothing but blanks. -/
def isBlankText (s : List Char) : Bool := s.all isBlank

/-- The part before the first `sep` and the part after it. -/
def splitOnce (sep : Char) : List Char → Option (List Char × List Char)
  | [] => none
  | c :: rest =>
    if c = sep then some ([], rest)
    else (splitOnce sep rest).map fun (a, b) => (c :: a, b)

/-- The text without a leading `lead`, if it has one. -/
def strip? (lead : List Char) (s : List Char) : Option (List Char) :=
  if lead.isPrefixOf s then some (s.drop lead.length) else none

/-- The text between `opening` and `closing`, if it begins with the one and then ends with
the other. -/
def enclosed? (opening closing : Char) : List Char → Option (List Char)
  | c :: rest =>
    if c = opening && rest.getLast? = some closing then some rest.dropLast else none
  | [] => none

/-- Equality of ASCII texts up to letter case. -/
def sameAscii (a b : String) : Bool := a.toList.map Char.toLower = b.toList.map Char.toLower

theorem trimStart_of_not_blank {c : Char} {s : List Char} (h : isBlank c = false) :
    trimStart (c :: s) = c :: s := by
  simp [trimStart, h]

theorem splitOnce_append {sep : Char} {a b : List Char} (h : sep ∉ a) :
    splitOnce sep (a ++ sep :: b) = some (a, b) := by
  induction a with
  | nil => simp [splitOnce]
  | cons c a ih =>
    have hc : ¬ c = sep := fun e => h (by simp [e])
    have ha : sep ∉ a := fun m => h (by simp [m])
    simp [splitOnce, hc, ih ha]

end Uplift.Text
