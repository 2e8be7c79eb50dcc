import Uplift.Regex.Basic
import Uplift.Regex.Property
/-! # Reading regular expressions

The written form: literals, classes, anchors, groups, alternatives and repetitions, with flags.
References to groups and conditions on what stands around a match are no part of it.

* `Regex.parse?` reads an expression.
-/

namespace Uplift.Regex

open Text

/-- The flags that hold at a place of an expression. -/
structure Flags where
  caseless : Bool := false
  multiLine : Bool := false
  dotAll : Bool := false
  crlf : Bool := false
  unicode : Bool := true
  verbose : Bool := false

/-- What is left of a text, the flags that hold, and the names of groups so far. -/
structure Reader where
  rest : List Char
  flags : Flags := {}
  names : List String := []

/-- Blanks and comments at the beginning of a text. -/
def skipVerbose : (comment : Bool) → List Char → List Char
  | _, [] => []
  | comment, c :: rest =>
    if comment then skipVerbose (c ≠ '\n') rest
    else if c = '#' then skipVerbose true rest
    else if isBlank c then skipVerbose false rest
    else c :: rest

/-- A text without what counts for nothing at its beginning. -/
def Flags.skip (f : Flags) (s : List Char) : List Char :=
  if f.verbose then skipVerbose false s else s

/-- A class under the flags. -/
def Flags.fold (f : Flags) (k : Class) : Class :=
  if f.caseless then (if f.unicode then .caseless k else .asciiCaseless k) else k

/-- The other characters, if the flags allow to name them. -/
def Flags.negate? (f : Flags) (negated : Bool) (k : Class) : Option Class :=
  if negated then (if f.unicode then some (.complement k) else none) else some k

/-- One character under the flags. -/
def Flags.literal (f : Flags) (c : Char) : Option Class :=
  if f.caseless && !f.unicode && c.toNat ≥ 128 then none else some (f.fold (.only c))

/-- What a backslash and the characters after it mean. -/
inductive Escape where
  | literal (c : Char)
  | cls (k : Class)
  | look (l : Look)

/-- The value of a digit in base 16. -/
def hexDigit? (c : Char) : Option Nat :=
  if c.isDigit then some (c.toNat - 48)
  else if 'a' ≤ c ∧ c ≤ 'f' then some (c.toNat - 87)
  else if 'A' ≤ c ∧ c ≤ 'F' then some (c.toNat - 55)
  else none

/-- The character with a number in base 16. -/
def hexChar? (digits : List Char) : Option Char := do
  let ds ← digits.mapM hexDigit?
  let n := ds.foldl (fun n d => n * 16 + d) 0
  if ds.isEmpty || n > 0x10FFFF || (0xD800 ≤ n && n ≤ 0xDFFF) then none else some (Char.ofNat n)

/-- The characters up to a closing brace, and what follows it. -/
def braced? (f : Flags) : (fuel : Nat) → List Char → Option (List Char × List Char)
  | 0, _ => none
  | fuel + 1, s =>
    match f.skip s with
    | [] => none
    | '\x7d' :: after => some ([], after)
    | c :: rest => (braced? f fuel rest).map fun (name, after) => (c :: name, after)

/-- So many characters, and what follows them. -/
def exactly? (f : Flags) : Nat → List Char → Option (List Char × List Char)
  | 0, s => some ([], s)
  | n + 1, s =>
    match f.skip s with
    | [] => none
    | c :: rest => (exactly? f n rest).map fun (front, after) => (c :: front, after)

/-- The character after a letter that announces its number, of `width` digits or in braces. -/
def hex? (f : Flags) (width : Nat) (s : List Char) : Option (Char × List Char) := do
  let (digits, after) ← match f.skip s with
    | '\x7b' :: rest => braced? f (rest.length + 1) rest
    | s => exactly? f width s
  some (← hexChar? digits, after)

/-- The property after a letter that announces it, or what does not have it. -/
def property? (f : Flags) (negated : Bool) (s : List Char) : Option (Class × List Char) := do
  let (name, after) ← match f.skip s with
    | '\x7b' :: rest => braced? f (rest.length + 1) rest
    | s => exactly? f 1 s
  let (unlike, k) ← Property.parse? name
  some (if negated != unlike then .complement (f.fold k) else f.fold k, after)

/-- Characters that have a meaning of their own. -/
def isMeta (c : Char) : Bool :=
  ['\\', '.', '+', '*', '?', '(', ')', '|', '[', ']', '\x7b', '\x7d', '^', '$', '#', '&', '-',
    '~'].contains c

/-- Characters that a backslash makes literal. -/
def isEscapable (c : Char) : Bool :=
  isMeta c || (c.toNat < 128 && !c.isAlphanum && c ≠ '<' && c ≠ '>')

/-- The conditions on words that are named in braces after a `b`. A brace that does not begin a
name is left for what comes next. -/
def wordLook? (f : Flags) (s : List Char) : Option (Escape × List Char) :=
  let ascii := !f.unicode
  let plain := some (.look (.wordEdge ascii false), s)
  let isNameChar (c : Char) : Bool := c.isAlpha || c = '-'
  match s with
  | '\x7b' :: rest =>
    if ((f.skip rest).head?.map isNameChar).getD true then
      match (f.skip rest).span isNameChar with
      | (name, rest) =>
        match f.skip rest with
        | '\x7d' :: after =>
          match String.ofList name with
          | "start" => some (.look (.wordStart ascii), after)
          | "end" => some (.look (.wordEnd ascii), after)
          | "start-half" => some (.look (.wordStartHalf ascii), after)
          | "end-half" => some (.look (.wordEndHalf ascii), after)
          | _ => none
        | _ => none
    else plain
  | _ => plain

/-- A class of words, digits or blanks, or of the other characters. -/
def perl? (f : Flags) (c : Char) : Option Class :=
  let ascii (name : String) : Class := (Class.posix? name).getD .nothing
  let k := match c.toLower with
    | 'd' => if f.unicode then Class.digit else ascii "digit"
    | 's' => if f.unicode then Class.space else ascii "space"
    | _ => if f.unicode then Class.word else ascii "word"
  f.negate? c.isUpper k

/-- What stands after a backslash. -/
def escape? (f : Flags) : List Char → Option (Escape × List Char)
  | [] => none
  | c :: rest =>
    let lit (c : Char) : Option (Escape × List Char) := some (.literal c, rest)
    if c.isDigit then none
    else if isEscapable c then lit c
    else match c with
      | 'x' => do
        let (c, after) ← hex? f 2 rest
        if f.unicode || c.toNat < 128 || (f.skip rest).head? = some '\x7b' then
          some (.literal c, after)
        else none
      | 'u' => (hex? f 4 rest).map fun (c, r) => (.literal c, r)
      | 'U' => (hex? f 8 rest).map fun (c, r) => (.literal c, r)
      | 'p' | 'P' =>
        if f.unicode then (property? f (c = 'P') rest).map fun (k, r) => (.cls k, r) else none
      | 'd' | 's' | 'w' | 'D' | 'S' | 'W' => (perl? f c).map fun k => (.cls k, rest)
      | 'a' => lit '\x07'
      | 'f' => lit '\x0c'
      | 't' => lit '\t'
      | 'n' => lit '\n'
      | 'r' => lit '\r'
      | 'v' => lit '\x0b'
      | 'A' => some (.look .textStart, rest)
      | 'z' => some (.look .textEnd, rest)
      | 'b' => wordLook? f rest
      | 'B' => some (.look (.wordEdge (!f.unicode) true), rest)
      | '<' => some (.look (.wordStart (!f.unicode)), rest)
      | '>' => some (.look (.wordEnd (!f.unicode)), rest)
      | _ => none

/-- An item of a class: a character, or a class that has a name. -/
def classItem? (f : Flags) : List Char → Option (Escape × List Char)
  | '\\' :: rest =>
    match escape? f rest with
    | some (.look _, _) => none
    | other => other
  | c :: rest => some (.literal c, rest)
  | [] => none

/-- A class between colons and brackets, after its first bracket. -/
def posixItem? (f : Flags) (s : List Char) : Option (Option Class × List Char) :=
  match s with
  | ':' :: rest =>
    let (negated, body) := match rest with
      | '^' :: body => (true, body)
      | body => (false, body)
    match body.span (· ≠ ':') with
    | (name, ':' :: ']' :: after) =>
      (Class.posix? (String.ofList name)).map fun k => (f.negate? negated (f.fold k), after)
    | _ => none
  | _ => none

/-- How two parts of a class are put together. -/
inductive SetOp where
  | inter | diff | symmDiff

/-- Puts two parts of a class together. -/
def SetOp.apply (f : Flags) (op : SetOp) (a b : Class) : Class :=
  match op with
  | inter => .inter (f.fold a) (f.fold b)
  | diff => .diff (f.fold a) (f.fold b)
  | symmDiff => .symmDiff (f.fold a) (f.fold b)

/-- The operation that a text begins with. -/
def setOp? : List Char → Option (SetOp × List Char)
  | '&' :: '&' :: rest => some (.inter, rest)
  | '-' :: '-' :: rest => some (.diff, rest)
  | '~' :: '~' :: rest => some (.symmDiff, rest)
  | _ => none

/-- A character of a class, if the flags allow it. -/
def classChar? (f : Flags) (c : Char) : Option Nat :=
  if f.unicode || c.toNat < 128 then some c.toNat else none

/-- Dashes at the beginning of a class, which mean themselves. -/
def leadingDashes (f : Flags) : (fuel : Nat) → List Char → Bool × List Char
  | 0, s => (false, s)
  | fuel + 1, s =>
    match s with
    | '-' :: rest => (true, (leadingDashes f fuel (f.skip rest)).2)
    | _ => (false, s)

/-- The part of a class up to its last operation, and the items after that. -/
structure ClassDraft where
  negated : Bool
  left : Option (Class × SetOp) := none
  items : Class := .nothing

namespace ClassDraft

/-- One item more. -/
def add (d : ClassDraft) (k : Class) : ClassDraft := { d with items := .union d.items k }

/-- Everything so far. -/
def value (d : ClassDraft) (f : Flags) : Class :=
  match d.left with
  | some (k, op) => op.apply f k d.items
  | none => d.items

/-- The beginning of a class, after its bracket. -/
def start (f : Flags) (s : List Char) : ClassDraft × List Char :=
  let s := f.skip s
  let (negated, s) := match s with
    | '^' :: rest => (true, f.skip rest)
    | s => (false, s)
  let d : ClassDraft := { negated }
  let (dash, s) := leadingDashes f s.length s
  if dash then (d.add (.only '-'), s)
  else match s with
    | ']' :: rest => (d.add (.only ']'), f.skip rest)
    | s => (d, s)

end ClassDraft

/-- Reads the rest of a class. -/
def class? (f : Flags) : (fuel : Nat) → ClassDraft → List Char → Option (Class × List Char)
  | 0, _, _ => none
  | fuel + 1, d, s =>
    match f.skip s with
    | [] => none
    | '[' :: rest =>
      match posixItem? f rest with
      | some (some k, after) => class? f fuel (d.add k) after
      | some (none, _) => none
      | none =>
        let (inner, body) := ClassDraft.start f rest
        match class? f fuel inner body with
        | some (k, after) => class? f fuel (d.add k) after
        | none => none
    | ']' :: rest => (f.negate? d.negated (f.fold (d.value f))).map fun k => (k, rest)
    | s =>
      match setOp? s with
      | some (op, after) =>
        class? f fuel { d with left := some (d.value f, op), items := .nothing } after
      | none => do
        let (first, after) ← classItem? f s
        let after := f.skip after
        let single : Option Class := match first with
          | .literal c => (classChar? f c).map fun n => .ranges [(n, n)]
          | .cls k => some k
          | .look _ => none
        let beyond := f.skip after.tail
        if after.isEmpty then none
        else if after.head? ≠ some '-' || beyond.head? = some ']' || beyond.head? = some '-' then
          class? f fuel (d.add (← single)) after
        else
          let (second, after) ← classItem? f beyond
          match first, second with
          | .literal a, .literal b =>
            let low ← classChar? f a
            let high ← classChar? f b
            if low ≤ high then class? f fuel (d.add (.ranges [(low, high)])) after else none
          | _, _ => none

/-- Flags that are switched on or off. -/
def flags? : (fuel : Nat) → (on dangling : Bool) → (switched : Bool) → (seen : List Char) → Flags →
    List Char → Option (Flags × List Char)
  | 0, _, _, _, _, _, _ => none
  | fuel + 1, on, dangling, switched, seen, f, s =>
    match s with
    | [] => none
    | c :: rest =>
      if c = ':' || c = ')' then if dangling then none else some (f, s)
      else if c = '-' then
        if switched then none else flags? fuel false true true seen f rest
      else if seen.contains c then none
      else
        let next (f : Flags) : Option (Flags × List Char) :=
          flags? fuel on false switched (c :: seen) f rest
        match c with
        | 'i' => next { f with caseless := on }
        | 'm' => next { f with multiLine := on }
        | 's' => next { f with dotAll := on }
        | 'R' => next { f with crlf := on }
        | 'u' => next { f with unicode := on }
        | 'x' => next { f with verbose := on }
        | 'U' => next f
        | _ => none

/-- The name of a group. -/
def groupName? (s : List Char) : Option (String × List Char) :=
  let isFirst (c : Char) : Bool :=
    c = '_' || Category.isLetter c || Category.letterNumber.contains c
  let isLater (c : Char) : Bool :=
    isFirst c || ['.', '[', ']'].contains c ||
      [Category.decimalNumber, .letterNumber, .otherNumber].any (·.contains c)
  match s.span (· ≠ '>') with
  | (c :: name, _ :: after) =>
    if isFirst c && name.all isLater then some (String.ofList (c :: name), after) else none
  | _ => none

/-- How a group begins. -/
inductive Opening where
  | group (r : Reader)
  | setFlags (r : Reader)

/-- The beginning of a group, after its parenthesis. -/
def opening? (r : Reader) : Option Opening :=
  let s := r.flags.skip r.rest
  let named (s : List Char) : Option Opening := do
    let (name, after) ← groupName? s
    if r.names.contains name then none
    else some (.group { r with rest := after, names := name :: r.names })
  match s with
  | '?' :: '=' :: _ => none
  | '?' :: '!' :: _ => none
  | '?' :: '<' :: '=' :: _ => none
  | '?' :: '<' :: '!' :: _ => none
  | '?' :: 'P' :: '<' :: rest => named rest
  | '?' :: '<' :: rest => named rest
  | '?' :: rest => do
    let (f, after) ← flags? (rest.length + 1) true false false [] r.flags rest
    match after with
    | ':' :: body => some (.group { r with rest := body, flags := f })
    | _ :: body =>
      if rest.head? = some ')' then none else some (.setFlags { r with rest := body, flags := f })
    | [] => none
  | s => some (.group { r with rest := s })

/-- A number of times, with blanks around it. -/
def count? (s : List Char) : Option (Nat × List Char) :=
  let s := s.dropWhile isBlank
  let (ds, rest) := s.span Char.isDigit
  let n := ds.foldl (fun n c => n * 10 + (c.toNat - 48)) 0
  if ds.isEmpty || n ≥ Nat.pow 2 32 then none else some (n, rest.dropWhile isBlank)

/-- How often something is repeated, after the opening brace. -/
def counts? (f : Flags) (s : List Char) : Option (Nat × Option Nat × List Char) := do
  let (least, rest) ← count? (f.skip s)
  let close (most : Option Nat) (s : List Char) : Option (Nat × Option Nat × List Char) :=
    match s with
    | '\x7d' :: after =>
      let after := f.skip after
      some (least, most, if after.head? = some '?' then after.tail else after)
    | _ => none
  match rest with
  | ',' :: rest =>
    match f.skip rest with
    | '\x7d' :: after => close none ('\x7d' :: after)
    | rest => do
      let (most, rest) ← count? rest
      if least ≤ most then close (some most) rest else none
  | rest => close (some least) rest

/-- The sequence of items, which stand backwards. Flags among them are no expressions. -/
def sequence (items : List (Option Regex)) : Regex :=
  (items.filterMap id).foldl (fun acc r => .seq r acc) .empty

/-- Either of two, if there are two. -/
def either (a : Option Regex) (b : Regex) : Regex :=
  match a with
  | some a => .alt a b
  | none => b

/-- A backslash, and what stands after it. -/
def escaped? (f : Flags) (s : List Char) : Option (Regex × List Char) := do
  match ← escape? f s with
  | (.literal c, after) => do some (.one (← f.literal c), after)
  | (.cls k, after) => some (.one k, after)
  | (.look l, after) => some (.look l, after)

/-- The class of a dot. -/
def dot (f : Flags) : Class :=
  if f.dotAll then .anything
  else if f.crlf then .complement (.union (.only '\n') (.only '\r'))
  else .complement (.only '\n')

/-- Reads the rest of an expression or, within a group, of the group. `done` are the alternatives
before the current one, and `items` what was read of that, backwards. -/
def read? : (fuel : Nat) → (inGroup : Bool) → (done : Option Regex) →
    (items : List (Option Regex)) → Reader → Option (Regex × Reader)
  | 0, _, _, _, _ => none
  | fuel + 1, inGroup, done, items, r =>
    let f := r.flags
    let on (x : Regex) (rest : List Char) : Option (Regex × Reader) :=
      read? fuel inGroup done (some x :: items) { r with rest }
    let repeated (least : Nat) (most : Option Nat) (rest : List Char) : Option (Regex × Reader) :=
      match items with
      | some x :: more =>
        read? fuel inGroup done (some (.times x least most) :: more) { r with rest }
      | _ => none
    let lazily (rest : List Char) : List Char := if rest.head? = some '?' then rest.tail else rest
    match f.skip r.rest with
    | [] => if inGroup then none else some (either done (sequence items), { r with rest := [] })
    | c :: rest =>
      match c with
      | '(' =>
        match opening? { r with rest } with
        | none => none
        | some (.setFlags r) => read? fuel inGroup done (none :: items) r
        | some (.group inner) =>
          match read? fuel true none [] inner with
          | none => none
          | some (body, after) =>
            -- Flags that were set within a group end with it.
            read? fuel inGroup done (some body :: items) { after with flags := f }
      | ')' => if inGroup then some (either done (sequence items), { r with rest }) else none
      | '|' => read? fuel inGroup (some (either done (sequence items))) [] { r with rest }
      | '[' =>
        let (d, body) := ClassDraft.start f rest
        match class? f (body.length + 1) d body with
        | some (k, after) => on (.one k) after
        | none => none
      | '?' => repeated 0 (some 1) (lazily rest)
      | '*' => repeated 0 none (lazily rest)
      | '+' => repeated 1 none (lazily rest)
      | '\x7b' =>
        match counts? f rest with
        | some (least, most, after) => repeated least most after
        | none => none
      | '\\' =>
        match escaped? f rest with
        | some (x, after) => on x after
        | none => none
      | '.' => if f.unicode then on (.one (dot f)) rest else none
      | '^' => on (.look (if f.multiLine then .lineStart f.crlf else .textStart)) rest
      | '$' => on (.look (if f.multiLine then .lineEnd f.crlf else .textEnd)) rest
      | c =>
        match f.literal c with
        | some k => on (.one k) rest
        | none => none

/-- The expression that a text writes, if it is well formed and not too large. -/
def parse? (text : String) : Option Regex := do
  let (r, _) ← read? (text.length + 1) false none [] { rest := text.toList }
  if r.size ≤ maxSize then some r else none

end Uplift.Regex
