import Uplift.Yaml.Scalar
import Uplift.Decimal.Shortest
/-! # Writing YAML

Collections are written in block style, two blanks deeper for each level; a sequence under a key
stands in the column of the key. A key that is no short scalar on a single line follows a question
mark. Empty collections are brackets or braces.

* `Yaml.write` gives the text of a document; `tagsApart` tells which values have one.
-/

namespace Uplift.Yaml

/-- What was written, and how the last line stands. -/
structure Page where
  /-- The characters, backwards. -/
  text : List Char := []
  column : Nat := 0
  /-- The last thing written was a blank or a line break. -/
  blank : Bool := true
  /-- The last line holds nothing but indentation and the marks of collections. -/
  fresh : Bool := true

namespace Page

/-- Writes characters of a line. -/
def put (p : Page) (s : List Char) : Page :=
  { p with text := s.reverse ++ p.text, column := p.column + s.length }

/-- Writes a line break. -/
def newline (p : Page) (c : Char) : Page := { p with text := c :: p.text, column := 0 }

/-- Moves to a column, on a new line unless the last one is free up to there. -/
def indent (p : Page) (column : Int) : Page :=
  let column := column.toNat
  let p := if !p.fresh || p.column > column || (p.column = column && !p.blank) then p.newline '\n'
    else p
  { p.put (List.replicate (column - p.column) ' ') with blank := true, fresh := true }

/-- Writes a mark: with a blank before it if `apart`; after it the line is
still free if `opening`. -/
def mark (p : Page) (s : List Char) (apart opening : Bool) : Page :=
  let p := if apart && !p.blank then p.put [' '] else p
  { p.put s with blank := false, fresh := p.fresh && opening }

/-- Writes a text after a blank, as the last thing of its line. -/
def word (p : Page) (s : List Char) : Page :=
  let p := if !p.blank && !s.isEmpty then p.put [' '] else p
  { p.put s with blank := false, fresh := false }

/-- A text in single quotes, its line breaks followed by the indentation. -/
def single (p : Page) (indent : Int) (s : List Char) : Page :=
  let (p, breaks) := s.foldl step (p.mark ['\''] true false, false)
  let p := if breaks then p.indent indent else p
  { p.put ['\''] with blank := false, fresh := false }
where
  /-- Writes one character; the flag tells whether a line break came last. -/
  step : Page × Bool → Char → Page × Bool
    | (p, breaks), c =>
      if c = ' ' then (p.put [c], breaks)
      else if isBreak c then
        let p := if !breaks && c = '\n' then p.newline '\n' else p
        ({ p.newline c with fresh := true }, true)
      else
        let p := if breaks then p.indent indent else p
        ({ p.put (if c = '\'' then [c, c] else [c]) with fresh := false }, false)

/-- A text as a literal block. -/
def literal (p : Page) (indent : Int) (s : List Char) : Page :=
  let hint : List Char := match s.head? with
    | some c => if c = ' ' || isBreak c then ['2'] else []
    | none => []
  let chomp : List Char := match s.reverse with
    | [] => ['-']
    | [c] => if isBreak c then ['+'] else ['-']
    | c :: d :: _ => if !isBreak c then ['-'] else if isBreak d then ['+'] else []
  let p := p.mark (['|'] ++ hint ++ chomp) true false
  let p := { p.newline '\n' with blank := true, fresh := true }
  (s.foldl step (p, true)).1
where
  /-- Writes one character; the flag tells whether a line break came last. -/
  step : Page × Bool → Char → Page × Bool
    | (p, breaks), c =>
      if isBreak c then ({ p.newline c with fresh := true }, true)
      else
        let p := if breaks then p.indent indent else p
        ({ p.put [c] with fresh := false }, false)

/-- A text, in the way that suits it. -/
def scalar (p : Page) (indent : Int) (simpleKey : Bool) (s : String) : Page :=
  match styleOf s simpleKey with
  | .single => p.single indent s.toList
  | .double => p.word ('"' :: s.toList.flatMap doubleQuoted ++ ['"'])
  | .literal => p.literal indent s.toList
  | _ => p.word s.toList

end Page

/-- The text of a scalar that is no string. -/
def scalarText : Value → String
  | .bool b => if b then "true" else "false"
  | .int n => toString n
  | .float bits =>
    if Decimal.isFinite bits then Decimal.finiteText bits
    else if bits.toNat % Nat.pow 2 52 ≠ 0 then ".nan"
    else if bits.toNat / Nat.pow 2 63 = 1 then "-.inf" else ".inf"
  | _ => "null"

/-- A key that can stand before its colon: at most 128 bytes on one line. -/
def isSimpleKey : Value → Bool
  | .str s => !(Analysis.of s.toList).multiline && s.utf8ByteSize ≤ 128
  | .tagged t (.str s) =>
    !(Analysis.of s.toList).multiline && t.utf8ByteSize + s.utf8ByteSize ≤ 128
  | .seq (_ :: _) | .map (_ :: _) | .tagged _ (.seq (_ :: _)) | .tagged _ (.map (_ :: _)) => false
  | _ => true

mutual

/-- Writes a value. `indent` is the column of the collection around it, `inMapping` tells whether
that is a mapping, and `simpleKey` whether the value is a key before its colon. -/
def put (indent : Int) (inMapping simpleKey : Bool) (p : Page) : Value → Page
  | .str s => p.scalar (if indent < 0 then 2 else indent + 2) simpleKey s
  | .seq [] => p.mark ['[', ']'] true false
  | .seq (v :: rest) =>
    let inner := if indent < 0 then 0 else if inMapping && !p.fresh then indent else indent + 2
    putItems inner p (v :: rest)
  | .map [] => p.mark ['\x7b', '\x7d'] true false
  | .map (e :: rest) => putEntries (if indent < 0 then 0 else indent + 2) p (e :: rest)
  | .tagged t v => put indent inMapping simpleKey (p.mark (tagText t) true false) v
  | v => p.word (scalarText v).toList

/-- Writes the items of a sequence in a column. -/
def putItems (indent : Int) (p : Page) : List Value → Page
  | [] => p
  | v :: rest =>
    putItems indent (put indent false false ((p.indent indent).mark ['-'] true true) v) rest

/-- Writes the entries of a mapping in a column. -/
def putEntries (indent : Int) (p : Page) : List (Value × Value) → Page
  | [] => p
  | (k, v) :: rest =>
    let p := p.indent indent
    let p :=
      if isSimpleKey k then (put indent true true p k).mark [':'] false false
      else
        let p := put indent true false (p.mark ['?'] true true) k
        (p.indent indent).mark [':'] true true
    putEntries indent (put indent true false p v) rest

end

mutual

/-- No tag in a value stands directly before another tag. Two tags in a row cannot be written. -/
def tagsApart : Value → Bool
  | .tagged _ (.tagged _ _) => false
  | .tagged _ v => tagsApart v
  | .seq items => itemsTagsApart items
  | .map entries => entriesTagsApart entries
  | _ => true

/-- `tagsApart` for each item. -/
def itemsTagsApart : List Value → Bool
  | [] => true
  | v :: rest => tagsApart v && itemsTagsApart rest

/-- `tagsApart` for each key and each value. -/
def entriesTagsApart : List (Value × Value) → Bool
  | [] => true
  | (k, v) :: rest => tagsApart k && tagsApart v && entriesTagsApart rest

end

/-- The text of a document. -/
def write (v : Value) : String :=
  String.ofList ((put (-1) false false {} v).indent 0).text.reverse

end Uplift.Yaml
