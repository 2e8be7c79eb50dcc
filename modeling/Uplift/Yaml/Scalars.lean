import Uplift.Yaml.Token
/-! # Scalars, tags and directives

One function for each token that is more than a fixed mark. Each is given the cursor at the token's
first character, and answers nothing if the token is not well formed. Line breaks inside a scalar
fold: a single one becomes a blank, of several the first is dropped.
-/

namespace Uplift.Yaml

/-- The value of a hexadecimal digit. -/
def hexDigit? (c : Char) : Option Nat :=
  if '0' ≤ c && c ≤ '9' then some (c.toNat - '0'.toNat)
  else if 'a' ≤ c && c ≤ 'f' then some (c.toNat - 'a'.toNat + 10)
  else if 'A' ≤ c && c ≤ 'F' then some (c.toNat - 'A'.toNat + 10)
  else none

/-- The number that hexadecimal digits spell. -/
def hexNumber? (digits : List Char) : Option Nat :=
  digits.foldlM (fun n c => (hexDigit? c).map (n * 16 + ·)) 0

/-- A line fold: the first break and those after it. -/
def fold (first more : List Char) : List Char :=
  if first.head? = some '\n' then (if more.isEmpty then [' '] else more) else first ++ more

/-- What separates two pieces of a scalar. -/
structure Gap where
  /-- Blanks on the same line. -/
  blanks : List Char := []
  /-- The first line break. -/
  first : List Char := []
  /-- The line breaks after it. -/
  more : List Char := []
  /-- A line break was passed. -/
  broken : Bool := false

namespace Gap

/-- How a gap counts in a scalar. -/
def text (g : Gap) : List Char := if g.broken then fold g.first g.more else g.blanks

end Gap

/-- The cursor stands left of a column that is given. -/
def leftOf (indent : Option Int) (c : Cursor) : Bool :=
  match indent with
  | some i => (c.column : Int) < i
  | none => false

/-- Reads blanks and line breaks. With `indent`, a tab left of that column after a break is
refused. -/
def gap? (indent : Option Int) : (fuel : Nat) → Gap → Cursor → Option (Gap × Cursor)
  | 0, g, c => some (g, c)
  | fuel + 1, g, c =>
    if isBlank c.peek then
      if g.broken then
        if c.peek = '\t' && leftOf indent c then none
        else gap? indent fuel g c.skip
      else gap? indent fuel { g with blanks := g.blanks ++ [c.peek] } c.skip
    else if isBreak c.peek && !c.atEnd then
      let (b, c) := c.takeBreak
      if g.broken then gap? indent fuel { g with more := g.more ++ b } c
      else gap? indent fuel { blanks := [], first := b, more := g.more, broken := true } c
    else some (g, c)

/-- A character may end a plain scalar in a flow collection. -/
def endsFlowPlain (c : Char) : Bool :=
  c = ',' || c = '[' || c = ']' || c = '\x7b' || c = '\x7d'

/-- A plain scalar: its text, whether a line break follows it, and the cursor after it. -/
def plain? (inFlow : Bool) (indent : Int) :
    (fuel : Nat) → (acc : List Char) → Gap → Cursor → Option (List Char × Bool × Cursor)
  | 0, _, _, _ => none
  | fuel + 1, acc, g, c =>
    if c.atAnyMarker || c.peek = '#' then
      some (acc, g.broken, c)
    else
      match piece (c.rest.length + 1) acc g c with
      | none => none
      | some (acc, g, c) =>
        if isBlank c.peek || (isBreak c.peek && !c.atEnd) then
          match gap? (some indent) (c.rest.length + 1) g c with
          | none => none
          | some (g, c) =>
            if !inFlow && (c.column : Int) < indent then some (acc, g.broken, c)
            else plain? inFlow indent fuel acc g c
        else some (acc, g.broken, c)
where
  /-- Characters up to a blank, a break or an end of the scalar. -/
  piece : (fuel : Nat) → (acc : List Char) → Gap → Cursor → Option (List Char × Gap × Cursor)
    | 0, _, _, _ => none
    | fuel + 1, acc, g, c =>
      if c.blankOrEndAt 0 then some (acc, g, c)
      else if inFlow && c.peek = ':' && (endsFlowPlain (c.peekAt 1) || c.peekAt 1 = '?') then none
      else if (c.peek = ':' && c.blankOrEndAt 1) || (inFlow && endsFlowPlain c.peek) then
        some (acc, g, c)
      else piece fuel (acc ++ g.text ++ [c.peek]) {} c.skip

/-- The character that an escape of one letter stands for. -/
def shortEscape? (c : Char) : Option Char :=
  match c with
  | '0' => some '\x00'
  | 'a' => some '\x07'
  | 'b' => some '\x08'
  | 't' | '\t' => some '\t'
  | 'n' => some '\n'
  | 'v' => some '\x0b'
  | 'f' => some '\x0c'
  | 'r' => some '\r'
  | 'e' => some '\x1b'
  | ' ' => some ' '
  | '"' => some '"'
  | '/' => some '/'
  | '\\' => some '\\'
  | 'N' => some '\x85'
  | '_' => some '\xa0'
  | 'L' => some '\u2028'
  | 'P' => some '\u2029'
  | _ => none

/-- How many hexadecimal digits follow an escape's letter. -/
def escapeDigits? (c : Char) : Option Nat :=
  match c with
  | 'x' => some 2
  | 'u' => some 4
  | 'U' => some 8
  | _ => none

/-- The character of an escape, after its backslash. -/
def escape? (c : Cursor) : Option (Char × Cursor) :=
  match shortEscape? c.peek with
  | some ch => if c.atEnd then none else some (ch, c.skip)
  | none => do
    let n ← escapeDigits? c.peek
    let c := c.skip
    let digits := c.rest.take n
    if digits.length < n then none
    else
      let v ← hexNumber? digits
      if (0xD800 ≤ v ∧ v ≤ 0xDFFF) ∨ v > 0x10FFFF then none
      else some (Char.ofNat v, c.skipN n)

/-- A quoted scalar after its opening quote. -/
def quoted? (single : Bool) : (fuel : Nat) → (acc : List Char) → Cursor →
    Option (List Char × Cursor)
  | 0, _, _ => none
  | fuel + 1, acc, c =>
    if c.atAnyMarker || c.atEnd then none
    else do
      let (acc, broken, c) ← piece (c.rest.length + 1) acc c
      if c.peek = closing then some (acc, c.skip)
      else do
        let (g, c) ← gap? none (c.rest.length + 1) { broken } c
        quoted? single fuel (acc ++ g.text) c
where
  /-- The closing quote. -/
  closing : Char := if single then '\'' else '"'
  /-- Characters up to a blank, a break or the closing quote; true if an
  escaped break was passed. -/
  piece : (fuel : Nat) → (acc : List Char) → Cursor → Option (List Char × Bool × Cursor)
    | 0, _, _ => none
    | fuel + 1, acc, c =>
      if c.blankOrEndAt 0 then some (acc, false, c)
      else if single && c.peek = '\'' && c.peekAt 1 = '\'' then
        piece fuel (acc ++ ['\'']) (c.skipN 2)
      else if c.peek = closing then some (acc, false, c)
      else if !single && c.peek = '\\' then
        if isBreak (c.peekAt 1) then some (acc, true, c.skip.takeBreak.2)
        else do
          let (ch, c) ← escape? c.skip
          piece fuel (acc ++ [ch]) c
      else piece fuel (acc ++ [c.peek]) c.skip

/-- Line breaks and indentation before a line of a block scalar: the breaks, the widest
indentation, and the cursor at the line. `indent` is zero while it is not known. -/
def blockBreaks? (indent : Int) : (fuel : Nat) → (breaks : List Char) → (widest : Nat) → Cursor →
    Option (List Char × Nat × Cursor)
  | 0, _, _, _ => none
  | fuel + 1, breaks, widest, c =>
    let c := indentTo (c.rest.length + 1) c
    let widest := max widest c.column
    if (indent = 0 || (c.column : Int) < indent) && c.peek = '\t' then none
    else if isBreak c.peek && !c.atEnd then
      let (b, c) := c.takeBreak
      blockBreaks? indent fuel (breaks ++ b) widest c
    else some (breaks, widest, c)
where
  /-- Moves over the blanks of the indentation. -/
  indentTo : Nat → Cursor → Cursor
    | 0, c => c
    | fuel + 1, c =>
      if (indent = 0 || (c.column : Int) < indent) && c.peek = ' ' then indentTo fuel c.skip else c

/-- The lines of a block scalar. `first` is the line break before the current line, `more` are the
breaks after that, `blankBefore` tells whether the line before began with a blank. -/
def blockLines? (literal : Bool) (indent : Int) : (fuel : Nat) → (acc first more : List Char) →
    (blankBefore : Bool) → Cursor → Option (List Char × List Char × List Char × Cursor)
  | 0, _, _, _, _, _ => none
  | fuel + 1, acc, first, more, blankBefore, c =>
    if (c.column : Int) = indent && !c.atEnd then do
      let blankHere := isBlank c.peek
      let joint :=
        if !literal && first.head? = some '\n' && !blankBefore && !blankHere then
          (if more.isEmpty then [' '] else [])
        else first
      let (line, c) := c.takeWhile (!isBreak ·)
      let (b, c) := c.takeBreak
      let (more', _, c) ← blockBreaks? indent (c.rest.length + 1) [] 0 c
      blockLines? literal indent fuel (acc ++ joint ++ more ++ line) b more' blankHere c
    else some (acc, first, more, c)

/-- A block scalar, from its mark on. `outer` is the indentation of what it lies in. -/
def block? (literal : Bool) (outer : Int) (c : Cursor) : Option (List Char × Cursor) := do
  let c := c.skip
  let chomp? (c : Cursor) : Option Bool × Cursor :=
    if c.peek = '+' then (some true, c.skip)
    else if c.peek = '-' then (some false, c.skip)
    else (none, c)
  let width (c : Cursor) : Option (Nat × Cursor) :=
    if c.peek = '0' then none
    else if c.peek.isDigit then some (c.peek.toNat - '0'.toNat, c.skip)
    else some (0, c)
  -- The two marks may stand in either order.
  let (chomp, c) := chomp? c
  let (increment, c) ← width c
  let (chomp, c) := if chomp.isNone && increment > 0 then chomp? c else (chomp, c)
  let c := c.skipWhile isBlank
  let c := if c.peek = '#' then c.skipWhile (!isBreak ·) else c
  if !c.atBreakOrEnd then none
  else do
    let c := c.takeBreak.2
    -- Without a mark of its own, the indentation is that of the first line that is not blank.
    let given : Int :=
      if increment = 0 then 0 else if 0 ≤ outer then outer + increment else increment
    let (breaks, widest, c) ← blockBreaks? given (c.rest.length + 1) [] 0 c
    let indent : Int := if given ≠ 0 then given else max (max (widest : Int) (outer + 1)) 1
    let (text, first, more, c) ←
      blockLines? literal indent (c.rest.length + 1) [] [] breaks false c
    let tail := match chomp with
      | some false => []
      | none => first
      | some true => first ++ more
    some (text ++ tail, c)

/-- The name of an anchor or an alias, from its mark on. -/
def anchorName? (c : Cursor) : Option (List Char × Cursor) :=
  let (name, c) := c.skip.takeWhile isWord
  let ends := c.blankOrEndAt 0 || ['?', ':', ',', ']', '\x7d', '%', '@', '\x60'].contains c.peek
  if name.isEmpty || !ends then none else some (name, c)

/-- A character of a tag, apart from percent escapes. -/
def isUriChar (verbatim : Bool) (c : Char) : Bool :=
  isWord c ||
    [';', '/', '?', ':', '@', '&', '=', '+', '$', '.', '!', '~', '*', '\'', '(', ')'].contains c ||
    (verbatim && [',', '[', ']'].contains c)

/-- The bytes that percent escapes spell, as many as the first one asks for. -/
def percent? (c : Cursor) : Option (Char × Cursor) := do
  let byte? (c : Cursor) : Option (Nat × Cursor) := do
    if c.peek ≠ '%' then none
    else
      let hi ← hexDigit? (c.peekAt 1)
      let lo ← hexDigit? (c.peekAt 2)
      some (hi * 16 + lo, c.skipN 3)
  let (a, c) ← byte? c
  let more : Nat := if a < 0x80 then 0 else if a / 32 = 6 then 1 else if a / 16 = 14 then 2
    else if a / 8 = 30 then 3 else 4
  let rec rest (n : Nat) (acc : List Nat) (c : Cursor) : Option (List Nat × Cursor) :=
    match n with
    | 0 => some (acc, c)
    | n + 1 => do
      let (b, c) ← byte? c
      if b / 64 = 2 then rest n (acc ++ [b]) c else none
  if more = 4 then none
  else do
    let (bytes, c) ← rest more [a] c
    let s ← String.fromUTF8? ⟨(bytes.map UInt8.ofNat).toArray⟩
    match s.toList with
    | [ch] => some (ch, c)
    | _ => none

/-- The characters of a tag after `acc`. -/
def uri? (verbatim : Bool) : (fuel : Nat) → (acc : List Char) → Cursor → Option (List Char × Cursor)
  | 0, _, _ => none
  | fuel + 1, acc, c =>
    if c.peek = '%' then do
      let (ch, c) ← percent? c
      uri? verbatim fuel (acc ++ [ch]) c
    else if isUriChar verbatim c.peek && !c.atEnd then uri? verbatim fuel (acc ++ [c.peek]) c.skip
    else some (acc, c)

/-- The handle of a tag: exclamation marks around a word, or one mark and what may be a word. -/
def handle? (c : Cursor) : Option (List Char × Cursor) :=
  if c.peek ≠ '!' then none
  else
    let (word, c) := c.skip.takeWhile isWord
    if c.peek = '!' then some ('!' :: word ++ ['!'], c.skip) else some ('!' :: word, c)

/-- A tag: its handle and its suffix. -/
def tag? (inFlow : Bool) (c : Cursor) : Option (List Char × List Char × Cursor) := do
  let (handle, suffix, c) ←
    if c.peekAt 1 = '<' then do
      let (suffix, c) ← uri? true (c.rest.length + 1) [] (c.skipN 2)
      if suffix.isEmpty || c.peek ≠ '>' then none else some ([], suffix, c.skip)
    else do
      let (handle, c) ← handle? c
      if handle.length ≥ 2 && handle.getLast? = some '!' then
        let (suffix, c) ← uri? false (c.rest.length + 1) [] c
        if suffix.isEmpty then none else some (handle, suffix, c)
      else
        let (suffix, c) ← uri? false (c.rest.length + 1) handle.tail c
        if suffix.isEmpty then some ([], ['!'], c) else some (['!'], suffix, c)
  if c.blankOrEndAt 0 || (inFlow && c.peek = ',') then some (handle, suffix, c) else none

/-- A number of a version, of one to nine digits. -/
def versionNumber? (c : Cursor) : Option (Nat × Cursor) :=
  let (ds, c) := c.takeWhile Char.isDigit
  if ds.isEmpty || ds.length > 9 then none
  else some (ds.foldl (fun n d => n * 10 + (d.toNat - '0'.toNat)) 0, c)

/-- A directive, from its percent sign to the end of its line. -/
def directive? (c : Cursor) : Option (Token × Cursor) := do
  let (name, c) := c.skip.takeWhile isWord
  if name.isEmpty || !c.blankOrEndAt 0 then none
  else
    let (token, c) ←
      if name = ['Y', 'A', 'M', 'L'] then do
        let (major, c) ← versionNumber? (c.skipWhile isBlank)
        if c.peek ≠ '.' then none
        else
          let (minor, c) ← versionNumber? c.skip
          some (Token.version major minor, c)
      else if name = ['T', 'A', 'G'] then do
        let (handle, c) ← handle? (c.skipWhile isBlank)
        if handle ≠ ['!'] && (handle.length < 2 || handle.getLast? ≠ some '!') then none
        else if !isBlank c.peek then none
        else
          let c := c.skipWhile isBlank
          let (expansion, c) ← uri? true (c.rest.length + 1) [] c
          if expansion.isEmpty || !c.blankOrEndAt 0 then none
          else some (Token.tagHandle handle expansion, c)
      else none
    let c := c.skipWhile isBlank
    let c := if c.peek = '#' then c.skipWhile (!isBreak ·) else c
    if !c.atBreakOrEnd then none else some (token, c.takeBreak.2)

end Uplift.Yaml
