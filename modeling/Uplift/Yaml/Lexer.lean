import Uplift.Yaml.Scalars
/-! # Cutting YAML into tokens

Indentation becomes tokens: a block collection opens where a dash, a question mark or a simple key
stands right of the current column, and closes at the first token left of it. A simple key shows
itself only by the colon after it, so its place is kept until the line or 1024 characters are over,
and the tokens for it are put in there when the colon comes.

* `tokens?` cuts a whole text.
-/

namespace Uplift.Yaml

/-- A place where a simple key may have begun. -/
structure SimpleKey where
  possible : Bool := false
  /-- The colon must come, since the key stands in the column of its block mapping. -/
  required : Bool := false
  /-- How many tokens lie before it. -/
  position : Nat := 0
  index : Nat := 0
  line : Nat := 0
  column : Nat := 0
deriving Inhabited

/-- What is known between two tokens. -/
structure Lexer where
  cursor : Cursor
  tokens : Array Token := #[]
  /-- The column of the innermost block collection, or -1. -/
  indent : Int := -1
  /-- The columns around it. -/
  outer : List Int := []
  /-- How many flow collections are open. -/
  flow : Nat := 0
  keyAllowed : Bool := true
  /-- One place for each open flow collection and one for the block around, innermost first. -/
  keys : List SimpleKey := [{}]

namespace Lexer

/-- Appends a token. -/
def emit (l : Lexer) (t : Token) : Lexer := { l with tokens := l.tokens.push t }

/-- Puts a token after the first `n`. -/
def emitAt (l : Lexer) (n : Nat) (t : Token) : Lexer :=
  { l with tokens := (l.tokens.toList.take n ++ t :: l.tokens.toList.drop n).toArray }

/-- Closes the block collections right of a column. -/
def closeTo (column : Int) : (fuel : Nat) → Lexer → Lexer
  | 0, l => l
  | fuel + 1, l =>
    if l.indent > column then
      match l.outer with
      | i :: rest => closeTo column fuel { l.emit .blockEnd with indent := i, outer := rest }
      | [] => { l.emit .blockEnd with indent := -1 }
    else l

/-- Closes the block collections right of a column, outside flow collections. -/
def unindent (l : Lexer) (column : Int) : Lexer :=
  if l.flow > 0 then l else closeTo column (l.outer.length + 1) l

/-- Opens a block collection in a column right of the current one. The token goes after the first
`position` tokens. -/
def openBlock (l : Lexer) (column : Nat) (position : Nat) (t : Token) : Lexer :=
  if l.flow > 0 then l
  else if l.indent < column then
    { l.emitAt position t with indent := column, outer := l.indent :: l.outer }
  else l

/-- Gives up the innermost place for a simple key; fails if the colon had to come. -/
def dropKey (l : Lexer) : Option Lexer :=
  match l.keys with
  | k :: rest =>
    if k.possible && k.required then none
    else some { l with keys := { k with possible := false } :: rest }
  | [] => some l

/-- Notes that a simple key may begin here. -/
def saveKey (l : Lexer) : Option Lexer :=
  if l.keyAllowed then do
    let c := l.cursor
    let required := l.flow = 0 && l.indent = c.column
    let l ← l.dropKey
    let key := ⟨true, required, l.tokens.size, c.index, c.line, c.column⟩
    some { l with keys := key :: l.keys.tail }
  else some l

/-- Gives up the places that are too far behind. -/
def dropStale (l : Lexer) : Option Lexer := do
  let c := l.cursor
  let keys ← l.keys.mapM fun k =>
    if k.possible && (k.line < c.line || k.index + 1024 < c.index) then
      if k.required then none else some { k with possible := false }
    else some k
  some { l with keys }

/-- Moves over blanks, comments and line breaks to the next token. -/
def toToken : (fuel : Nat) → Lexer → Lexer
  | 0, l => l
  | fuel + 1, l =>
    let c := l.cursor
    let c := if c.column = 0 && c.peek = '\ufeff' then c.skip else c
    let c := c.skipWhile fun ch => ch = ' ' || ((l.flow > 0 || !l.keyAllowed) && ch = '\t')
    let c := if c.peek = '#' then c.skipWhile (!isBreak ·) else c
    if isBreak c.peek && !c.atEnd then
      toToken fuel { l with cursor := c.takeBreak.2, keyAllowed := l.keyAllowed || l.flow = 0 }
    else { l with cursor := c }

/-- Moves over one character and appends a token. -/
def mark (l : Lexer) (t : Token) : Lexer := { l.emit t with cursor := l.cursor.skip }

/-- The end of the text, a directive or a document marker ends all blocks. -/
def endBlocks (l : Lexer) : Option Lexer := do
  let l ← (l.unindent (-1)).dropKey
  some { l with keyAllowed := false }

/-- An opening bracket or brace. -/
def openFlow (l : Lexer) (t : Token) : Option Lexer := do
  let l ← l.saveKey
  some { l.mark t with flow := l.flow + 1, keys := {} :: l.keys, keyAllowed := true }

/-- A closing bracket or brace. -/
def closeFlow (l : Lexer) (t : Token) : Option Lexer := do
  let l ← l.dropKey
  let l := if l.flow > 0 then { l with flow := l.flow - 1, keys := l.keys.tail } else l
  some { l.mark t with keyAllowed := false }

/-- A comma between the items of a flow collection. -/
def comma (l : Lexer) : Option Lexer := do
  let l ← l.dropKey
  some { l.mark .flowEntry with keyAllowed := true }

/-- A dash. -/
def dash (l : Lexer) : Option Lexer := do
  let l ← if l.flow > 0 then some l
    else if !l.keyAllowed then none
    else some (l.openBlock l.cursor.column l.tokens.size .blockSeqStart)
  let l ← l.dropKey
  some { l.mark .blockEntry with keyAllowed := true }

/-- A question mark. -/
def question (l : Lexer) : Option Lexer := do
  let l ← if l.flow > 0 then some l
    else if !l.keyAllowed then none
    else some (l.openBlock l.cursor.column l.tokens.size .blockMapStart)
  let l ← l.dropKey
  some { l.mark .key with keyAllowed := l.flow = 0 }

/-- A colon. -/
def colon (l : Lexer) : Option Lexer :=
  match l.keys with
  | k :: rest =>
    if k.possible then
      let l := (l.emitAt k.position .key).openBlock k.column k.position .blockMapStart
      some { l.mark .value with keys := { k with possible := false } :: rest, keyAllowed := false }
    else fresh l
  | [] => fresh l
where
  /-- A colon that ends no simple key. -/
  fresh (l : Lexer) : Option Lexer := do
    let l ← if l.flow > 0 then some l
      else if !l.keyAllowed then none
      else some (l.openBlock l.cursor.column l.tokens.size .blockMapStart)
    some { l.mark .value with keyAllowed := l.flow = 0 }

/-- A token that may begin a simple key, read by `read`. -/
def item (l : Lexer) (read : Cursor → Option (Token × Cursor)) : Option Lexer := do
  let l ← l.saveKey
  let (t, c) ← read l.cursor
  some { l.emit t with cursor := c, keyAllowed := false }

/-- A block scalar. -/
def blockScalar (l : Lexer) (literal : Bool) : Option Lexer := do
  let l ← l.dropKey
  let (text, c) ← block? literal l.indent l.cursor
  some { l.emit (.scalar text (if literal then .literal else .folded)) with
    cursor := c, keyAllowed := true }

/-- A plain scalar. -/
def plainScalar (l : Lexer) : Option Lexer := do
  let l ← l.saveKey
  let (text, broken, c) ←
    plain? (l.flow > 0) (l.indent + 1) (l.cursor.rest.length + 1) [] {} l.cursor
  some { l.emit (.scalar text .plain) with cursor := c, keyAllowed := broken }

/-- A character that begins a token of its own, so that no plain scalar begins with it. -/
def isIndicator (c : Char) : Bool :=
  ['-', '?', ':', ',', '[', ']', '\x7b', '\x7d', '#', '&', '*', '!', '|', '>', '\'', '"', '%', '@',
    '\x60'].contains c

/-- Reads one token; nothing if none can begin here. -/
def step (l : Lexer) : Option Lexer := do
  let c := l.cursor
  let inFlow := l.flow > 0
  if c.column = 0 && c.peek = '%' then
    let l ← l.endBlocks
    let (t, c) ← directive? l.cursor
    some { l.emit t with cursor := c }
  else if c.atMarker '-' then
    let l ← l.endBlocks
    some { l.emit .documentStart with cursor := l.cursor.skipN 3 }
  else if c.atMarker '.' then
    let l ← l.endBlocks
    some { l.emit .documentEnd with cursor := l.cursor.skipN 3 }
  else if c.peek = '[' then l.openFlow .flowSeqStart
  else if c.peek = '\x7b' then l.openFlow .flowMapStart
  else if c.peek = ']' then l.closeFlow .flowSeqEnd
  else if c.peek = '\x7d' then l.closeFlow .flowMapEnd
  else if c.peek = ',' then l.comma
  -- Before a character that is no blank, these three may begin a scalar instead.
  else if c.peek = '-' && c.blankOrEndAt 1 then l.dash
  else if c.peek = '?' && (inFlow || c.blankOrEndAt 1) then l.question
  else if c.peek = ':' && (inFlow || c.blankOrEndAt 1) then l.colon
  else if c.peek = '*' then l.item fun c => (anchorName? c).map fun (n, c) => (.alias n, c)
  else if c.peek = '&' then l.item fun c => (anchorName? c).map fun (n, c) => (.anchor n, c)
  else if c.peek = '!' then l.item fun c => (tag? inFlow c).map fun (h, s, c) => (.tag h s, c)
  else if c.peek = '|' && !inFlow then l.blockScalar true
  else if c.peek = '>' && !inFlow then l.blockScalar false
  else if c.peek = '\'' then
    l.item fun c =>
      (quoted? true (c.rest.length + 1) [] c.skip).map fun (t, c) => (.scalar t .single, c)
  else if c.peek = '"' then
    l.item fun c =>
      (quoted? false (c.rest.length + 1) [] c.skip).map fun (t, c) => (.scalar t .double, c)
  else if !(c.blankOrEndAt 0 || isIndicator c.peek) || (c.peek = '-' && !isBlank (c.peekAt 1)) ||
      (!inFlow && (c.peek = '?' || c.peek = ':') && !c.blankOrEndAt 1) then
    l.plainScalar
  else none

/-- Reads tokens to the end of the text. -/
def run : (fuel : Nat) → Lexer → Option (List Token)
  | 0, _ => none
  | fuel + 1, l => do
    let l ← (l.toToken (l.cursor.rest.length + 1)).dropStale
    if l.cursor.atEnd then
      let l ← l.endBlocks
      some l.tokens.toList
    else
      let l ← (l.unindent l.cursor.column).step
      run fuel l

end Lexer

/-- A character that a YAML text may hold. -/
def isAllowed (c : Char) : Bool :=
  let n := c.toNat
  n == 0x09 || n == 0x0A || n == 0x0D || (0x20 ≤ n && n ≤ 0x7E) || n == 0x85 ||
    (0xA0 ≤ n && n ≤ 0xFFFD) || 0x10000 ≤ n

/-- The tokens of a text. -/
def tokens? (text : List Char) : Option (List Token) :=
  if text.all isAllowed then Lexer.run (text.length + 2) { cursor := Cursor.start text } else none

end Uplift.Yaml
