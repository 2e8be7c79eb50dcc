/-! # Tokens of YAML

The tokens that a YAML text is cut into, and the cursor that moves over the text.
-/

namespace Uplift.Yaml

/-- How a scalar is written. -/
inductive Style where
  | plain | single | double | literal | folded
deriving DecidableEq, Repr, Inhabited

/-- A token. Block collections are bracketed by tokens of their own, which stand for changes of
indentation. -/
inductive Token where
  | version (major minor : Nat)
  | tagHandle (handle expansion : List Char)
  | documentStart
  | documentEnd
  | blockSeqStart
  | blockMapStart
  | blockEnd
  | flowSeqStart
  | flowSeqEnd
  | flowMapStart
  | flowMapEnd
  | blockEntry
  | flowEntry
  | key
  | value
  | alias (name : List Char)
  | anchor (name : List Char)
  | tag (handle suffix : List Char)
  | scalar (text : List Char) (style : Style)
deriving DecidableEq, Repr, Inhabited

/-- A place in a text: what follows, and how many characters, lines and columns lie before. -/
structure Cursor where
  rest : List Char
  index : Nat
  line : Nat
  column : Nat
deriving Repr, Inhabited

/-- A line break: line feed, carriage return, next line, line or paragraph separator. -/
def isBreak (c : Char) : Bool :=
  c = '\n' || c = '\r' || c = '\x85' || c = '\u2028' || c = '\u2029'

/-- A space or a tab. -/
def isBlank (c : Char) : Bool := c = ' ' || c = '\t'

/-- A character of an anchor, a tag handle or a directive's name. -/
def isWord (c : Char) : Bool := c.isAlphanum || c = '_' || c = '-'

namespace Cursor

/-- The beginning of a text. -/
def start (text : List Char) : Cursor := ⟨text, 0, 0, 0⟩

/-- The character at the cursor, or NUL, which no text holds, at the end. -/
def peek (c : Cursor) : Char := c.rest.headD '\x00'

/-- The character `n` places after the cursor, or NUL. -/
def peekAt (c : Cursor) (n : Nat) : Char := (c.rest.drop n).headD '\x00'

/-- The text is over. -/
def atEnd (c : Cursor) : Bool := c.rest.isEmpty

/-- The cursor stands at a line break or at the end. -/
def atBreakOrEnd (c : Cursor) : Bool := c.atEnd || isBreak c.peek

/-- A blank, a line break or the end stands `n` places after the cursor. -/
def blankOrEndAt (c : Cursor) (n : Nat) : Bool :=
  match c.rest.drop n with
  | [] => true
  | ch :: _ => isBlank ch || isBreak ch

/-- Moves over one character of a line. -/
def skip (c : Cursor) : Cursor := ⟨c.rest.tail, c.index + 1, c.line, c.column + 1⟩

/-- Moves over `n` characters of a line. -/
def skipN (c : Cursor) (n : Nat) : Cursor := ⟨c.rest.drop n, c.index + n, c.line, c.column + n⟩

/-- The characters of a line that satisfy `p`, and the cursor after them. -/
def takeWhile (c : Cursor) (p : Char → Bool) : List Char × Cursor :=
  let taken := c.rest.takeWhile p
  (taken, c.skipN taken.length)

/-- Moves over the characters of a line that satisfy `p`. -/
def skipWhile (c : Cursor) (p : Char → Bool) : Cursor := (c.takeWhile p).2

/-- Moves over a line break, if one is there, and tells how it counts in a scalar. -/
def takeBreak (c : Cursor) : List Char × Cursor :=
  match c.rest with
  | '\r' :: '\n' :: rest => (['\n'], ⟨rest, c.index + 2, c.line + 1, 0⟩)
  | ch :: rest =>
    if ch = '\n' || ch = '\r' || ch = '\x85' then (['\n'], ⟨rest, c.index + 1, c.line + 1, 0⟩)
    else if isBreak ch then ([ch], ⟨rest, c.index + 1, c.line + 1, 0⟩)
    else ([], c)
  | [] => ([], c)

/-- A document marker made of three of a character stands here, at the beginning of a line. -/
def atMarker (c : Cursor) (ch : Char) : Bool :=
  c.column = 0 && c.rest.take 3 = [ch, ch, ch] && c.blankOrEndAt 3

/-- Either document marker stands here. -/
def atAnyMarker (c : Cursor) : Bool := c.atMarker '-' || c.atMarker '.'

end Cursor

end Uplift.Yaml
