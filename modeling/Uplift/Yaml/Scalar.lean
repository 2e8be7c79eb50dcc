import Uplift.Yaml.Plain
import Uplift.Yaml.Token
/-! # Writing scalars

A text is written plain if that is read back as the same text. Otherwise it stands in single
quotes; in double quotes if it holds characters that only an escape can show, or a blank next to a
line break; and as a literal block if it has line feeds.

* `Analysis.of`: which ways of writing a text are open to it.
* `Text.style`: the way that is taken.
-/

namespace Uplift.Yaml

/-- A character that may stand in a text unescaped. -/
def isPrintable (c : Char) : Bool :=
  let n := c.toNat
  n == 0x0A || (0x20 ≤ n && n ≤ 0x7E) || (0xA0 ≤ n && n ≤ 0xFFFD && n ≠ 0xFEFF) || 0x10000 ≤ n

/-- A blank, a line break, NUL or nothing. -/
def isBlankOrEnd : Option Char → Bool
  | none => true
  | some c => isBlank c || isBreak c || c = '\x00'

/-- What a text admits. -/
structure Analysis where
  multiline : Bool := false
  plain : Bool := false
  single : Bool := false
  literal : Bool := false
deriving Repr, DecidableEq

/-- What the characters of a text show. -/
structure Traits where
  indicator : Bool := false
  breaks : Bool := false
  special : Bool := false
  breakSpace : Bool := false
  spaceBreak : Bool := false

/-- A character makes the text look like syntax where it stands. -/
def isSyntaxAt (first : Bool) (before : Option Char) (c : Char) (after : Option Char) : Bool :=
  if first then
    ['#', ',', '[', ']', '\x7b', '\x7d', '&', '*', '!', '|', '>', '\'', '"', '%', '@',
        '\x60'].contains c ||
      ((c = '?' || c = ':' || c = '-') && isBlankOrEnd after)
  else (c = ':' && isBlankOrEnd after) || (c = '#' && isBlankOrEnd before)

/-- The traits of the characters after `before`. -/
def traits (first : Bool) (before : Option Char) : List Char → Traits
  | [] => {}
  | c :: rest =>
    let t := traits false (some c) rest
    { indicator := t.indicator || isSyntaxAt first before c rest.head?
      breaks := t.breaks || isBreak c
      special := t.special || !isPrintable c
      breakSpace := t.breakSpace || (c = ' ' && (before.map isBreak).getD false)
      spaceBreak := t.spaceBreak || (isBreak c && before = some ' ') }

/-- What a text admits. -/
def Analysis.of (s : List Char) : Analysis :=
  match s with
  | [] => { plain := true, single := true }
  | c :: _ =>
    let t := traits true none s
    let last := s.getLast?
    let marker := s.take 3 = ['-', '-', '-'] || s.take 3 = ['.', '.', '.']
    let edge (c : Option Char) : Bool := c = some ' ' || (c.map isBreak).getD false
    let quoted := !(t.spaceBreak || t.special)
    { multiline := t.breaks
      plain := quoted && !t.breakSpace && !t.breaks && !edge (some c) && !edge last &&
        !t.indicator && !marker
      single := quoted && !t.breakSpace
      literal := quoted && last ≠ some ' ' }

/-- The way a text is written; as a key on one line no literal block is. -/
def styleOf (s : String) (simpleKey : Bool) : Style :=
  let a := Analysis.of s.toList
  let wanted : Style :=
    if s.toList.contains '\n' then .literal else if isPlainText s then .plain else .single
  let style : Style := if simpleKey && a.multiline then .double else wanted
  let style : Style :=
    if style = .plain && (!a.plain || (s.isEmpty && simpleKey)) then .single else style
  let style : Style := if style = .single && !a.single then .double else style
  if style = .literal && (!a.literal || simpleKey) then .double else style

/-- The upper-case hexadecimal digit of a number below 16. -/
def upperHex (n : Nat) : Char := (Nat.digitChar n).toUpper

/-- A number in a given count of hexadecimal digits. -/
def hexDigits : (count : Nat) → Nat → List Char
  | 0, _ => []
  | count + 1, n => hexDigits count (n / 16) ++ [upperHex (n % 16)]

/-- A character in double quotes. -/
def doubleQuoted (c : Char) : List Char :=
  match c with
  | '\x00' => ['\\', '0']
  | '\x07' => ['\\', 'a']
  | '\x08' => ['\\', 'b']
  | '\t' => ['\\', 't']
  | '\n' => ['\\', 'n']
  | '\x0b' => ['\\', 'v']
  | '\x0c' => ['\\', 'f']
  | '\r' => ['\\', 'r']
  | '\x1b' => ['\\', 'e']
  | '"' => ['\\', '"']
  | '\\' => ['\\', '\\']
  | '\x85' => ['\\', 'N']
  | '\xa0' => ['\xa0']
  | '\u2028' => ['\\', 'L']
  | '\u2029' => ['\\', 'P']
  | c =>
    if isPrintable c then [c]
    else if c.toNat < 0x100 then ['\\', 'x'] ++ hexDigits 2 c.toNat
    else if c.toNat < 0x10000 then ['\\', 'u'] ++ hexDigits 4 c.toNat
    else ['\\', 'U'] ++ hexDigits 8 c.toNat

/-- A character of a tag; others are written as percent escapes. -/
def isTagChar (c : Char) : Bool :=
  isWord c || [';', '/', '?', ':', '@', '&', '=', '+', '$', ',', '_', '.', '!', '~', '*', '\'', '(',
    ')', '[', ']'].contains c

/-- A tag as it is written. -/
def tagText (tag : String) : List Char :=
  tag.toList.flatMap fun c =>
    if isTagChar c then [c]
    else (c.toString.toUTF8.data.toList).flatMap fun b =>
      ['%', upperHex (b.toNat / 16), upperHex (b.toNat % 16)]

end Uplift.Yaml
