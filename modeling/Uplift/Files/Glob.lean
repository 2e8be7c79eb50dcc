import Uplift.Text.Lines
/-! # Globs

A glob is a pattern for paths. Only `**` between slashes crosses from one name to the next.

* `Glob.parse?` reads a glob; `Glob.rests` gives every way to take a beginning of a path, and
  `Glob.isMatch` asks for one that takes all of it.
-/

namespace Uplift.Files

/-- A piece of a glob. -/
inductive Piece where
  | exactly (c : Char)
  | anyByte
  | anyName
  | manyNamesFirst
  | manyNamesLast
  | manyNamesBetween
  | oneOf (negated : Bool) (ranges : List (Char × Char))
  | either (alternatives : List (List Piece))
deriving Repr, Inhabited

namespace Glob

/-- The number of a slash. -/
def slash : UInt8 := 47

/-- What is left after each beginning of bytes without a slash. -/
def afterName : List UInt8 → List (List UInt8)
  | [] => [[]]
  | b :: rest => (b :: rest) :: (if b = slash then [] else afterName rest)

/-- What is left after each slash. -/
def afterSlashes : List UInt8 → List (List UInt8)
  | [] => []
  | b :: rest => (if b = slash then [rest] else []) ++ afterSlashes rest

/-- Every end of bytes. -/
def ends : List UInt8 → List (List UInt8)
  | [] => [[]]
  | b :: rest => (b :: rest) :: ends rest

/-- The bytes between two characters, as a class of bytes sees them: what the first ends with to
what the second begins with, and the other bytes of both. -/
def byteRanges (low high : Char) : List (UInt8 × UInt8) :=
  let a := Text.toBytes (String.singleton low)
  let b := Text.toBytes (String.singleton high)
  if low = high then a.map fun x => (x, x)
  else (a.dropLast.map fun x => (x, x)) ++ [(a.getLastD 0, b.headD 0)] ++
    (b.tail.map fun x => (x, x))

/-- A byte is in a class. -/
def inClass (negated : Bool) (ranges : List (Char × Char)) (b : UInt8) : Bool :=
  (ranges.any fun (low, high) => (byteRanges low high).any fun (l, h) => l ≤ b && b ≤ h) != negated

mutual

/-- A sequence has no pieces, or only braces around nothing. -/
def isVoid : List Piece → Bool
  | [] => true
  | .either alternatives :: rest => allVoid alternatives && isVoid rest
  | _ :: _ => false

/-- Every alternative is void. -/
def allVoid : List (List Piece) → Bool
  | [] => true
  | ps :: rest => isVoid ps && allVoid rest

end

mutual

/-- What is left of bytes after each way in which a piece takes some of them. -/
def rests : Piece → List UInt8 → List (List UInt8)
  | .exactly c, s =>
    let bytes := Text.toBytes (String.singleton c)
    if bytes.isPrefixOf s then [s.drop bytes.length] else []
  | .anyByte, s =>
    match s with
    | b :: rest => if b = slash then [] else [rest]
    | [] => []
  | .anyName, s => afterName s
  | .manyNamesFirst, s => s :: afterSlashes s
  | .manyNamesLast, s =>
    match s with
    | b :: rest => if b = slash then ends rest else []
    | [] => []
  | .manyNamesBetween, s =>
    match s with
    | b :: rest => if b = slash then rest :: afterSlashes rest else []
    | [] => []
  | .oneOf negated ranges, s =>
    match s with
    | b :: rest => if inClass negated ranges b then [rest] else []
    | [] => []
  | .either alternatives, s =>
    if allVoid alternatives then [s] else eitherRests alternatives s

/-- `rests` of a sequence. -/
def seqRests : List Piece → List UInt8 → List (List UInt8)
  | [], s => [s]
  | p :: ps, s => (rests p s).flatMap (seqRests ps)

/-- `rests` of alternatives; void ones count for nothing. -/
def eitherRests : List (List Piece) → List UInt8 → List (List UInt8)
  | [], _ => []
  | ps :: more, s => (if isVoid ps then [] else seqRests ps s) ++ eitherRests more s

end

/-- A glob that is nothing but `**` matches everything; any other matches what it can take
wholly. -/
def isMatch (glob : List Piece) (path : String) : Bool :=
  match glob with
  | [.manyNamesFirst] => true
  | ps => (seqRests ps (Text.toBytes path)).any List.isEmpty

/-- A class as it is read: its ranges, backwards, and whether a dash stands after the last. -/
structure Class where
  ranges : List (Char × Char) := []
  dash : Bool := false

/-- What comes of reading a class. -/
inductive ClassEnd where
  | closed (ranges : List (Char × Char)) (rest : List Char)
  | unclosed
  | badRange

/-- Reads the rest of a class. At its beginning a bracket and a dash mean themselves. -/
def classEnd (first : Bool) (k : Class) : List Char → ClassEnd
  | [] => .unclosed
  | c :: rest =>
    if c = ']' && !first then
      .closed (if k.dash then ('-', '-') :: k.ranges else k.ranges).reverse rest
    else if c = '-' && !first && !k.dash then classEnd false { k with dash := true } rest
    else if k.dash then
      match k.ranges with
      | (low, _) :: more =>
        if c < low then .badRange else classEnd false ⟨(low, c) :: more, false⟩ rest
      | [] => .badRange
    else classEnd false ⟨(c, c) :: k.ranges, false⟩ rest

/-- A glob as it is read. The levels are the braces that are open, innermost first, each with the
alternatives before the current one, backwards; the pieces of each sequence are backwards too. -/
structure Draft where
  pieces : List Piece := []
  levels : List (List Piece × List (List Piece)) := []
  before : Option Char := none
  lonelyBrackets : Bool := false

namespace Draft

/-- One piece more. -/
def push (d : Draft) (p : Piece) : Draft := { d with pieces := p :: d.pieces }

/-- A brace opens. -/
def enter (d : Draft) : Draft := { d with pieces := [], levels := (d.pieces, []) :: d.levels }

/-- Another alternative begins, or a comma stands for itself outside braces. -/
def comma (d : Draft) : Draft :=
  match d.levels with
  | (outer, done) :: more =>
    { d with pieces := [], levels := (outer, d.pieces.reverse :: done) :: more }
  | [] => d.push (.exactly ',')

/-- A brace closes. -/
def leave? (d : Draft) : Option Draft :=
  match d.levels with
  | (outer, done) :: more =>
    some { d with
      pieces := .either (d.pieces.reverse :: done).reverse :: outer, levels := more }
  | [] => none

/-- Two stars, with `rest` after them, and what of it is left. -/
def stars (d : Draft) (rest : List Char) : Draft × List Char :=
  let many (d : Draft) (p : Piece) : Draft :=
    match d.pieces with
    | .manyNamesFirst :: _ | .manyNamesLast :: _ => d
    | _ :: more => { d with pieces := p :: more }
    | [] => d.push .manyNamesFirst
  let starred (d : Draft) : Draft × List Char := ({ d with before := some '*' }, rest)
  let inBraces := !d.levels.isEmpty
  let separate := d.before = some '/' ||
    (inBraces && (d.before = some ',' || d.before = some '\x7b'))
  let plain := starred ((d.push .anyName).push .anyName)
  match rest with
  | '/' :: more =>
    if d.pieces.isEmpty || separate then
      ({ many d .manyNamesBetween with before := some '/' }, more)
    else plain
  | [] => if d.pieces.isEmpty || separate then starred (many d .manyNamesLast) else plain
  | c :: _ =>
    if !d.pieces.isEmpty && separate && inBraces && (c = ',' || c = '\x7d') then
      starred (many d .manyNamesLast)
    else plain

end Draft

/-- Reads the rest of a glob. Brackets that are not closed mean themselves if that is allowed. -/
def read? (lenient : Bool) : (fuel : Nat) → Draft → List Char → Option (List Piece)
  | 0, _, _ => none
  | _ + 1, d, [] => if d.levels.isEmpty then some d.pieces.reverse else none
  | fuel + 1, d, c :: rest =>
    let on (d : Draft) (rest : List Char) : Option (List Piece) := read? lenient fuel d rest
    let after (d : Draft) : Draft := { d with before := some c }
    if c = '?' then on (after (d.push .anyByte)) rest
    else if c = '*' then
      match rest with
      | '*' :: rest =>
        let (e, rest) := d.stars rest
        on e rest
      | _ => on (after (d.push .anyName)) rest
    else if c = '[' && !d.lonelyBrackets then
      let (negated, body) := match rest with
        | '!' :: body => (true, body)
        | '^' :: body => (true, body)
        | body => (false, body)
      match classEnd true {} body with
      | .closed ranges rest => on { d.push (.oneOf negated ranges) with before := some ']' } rest
      | .unclosed =>
        if lenient then on { after (d.push (.exactly '[')) with lonelyBrackets := true } rest
        else none
      | .badRange => none
    else if c = '\x7b' then on (after d.enter) rest
    else if c = '\x7d' then d.leave?.bind fun d => on (after d) rest
    else if c = ',' then on (after d.comma) rest
    else if c = '\\' then
      match rest with
      | e :: rest => on { d.push (.exactly e) with before := some e } rest
      | [] => none
    else on (after (d.push (.exactly c))) rest

/-- The pieces of a glob, if it is well formed. -/
def parse? (lenient : Bool) (text : List Char) : Option (List Piece) :=
  read? lenient (text.length + 1) {} text

end Glob

end Uplift.Files
