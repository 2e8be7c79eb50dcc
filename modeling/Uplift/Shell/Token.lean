import Uplift.Shell.Script
import Uplift.Text.Blank
/-! # Tokens of scripts

Cuts a script into words and operators. A word keeps its quoting, since an expansion needs it; a
plain word also keeps its spelling, since it may be a keyword or an assignment.
-/

namespace Uplift.Shell

/-- A token of a script. -/
inductive Token where
  | word (w : Word)
  | op (s : String)
  /-- An operator of a redirection, with the number of the stream before it. -/
  | redirect (stream : Option Nat) (s : String)
deriving DecidableEq, Repr

/-- The spelling of a word without quotes and expansions. -/
def Word.plain? : Word → Option String
  | [.text s false] => some s
  | _ => none

/-- A character of names. -/
def isNameChar (c : Char) : Bool := c.isAlphanum || c = '_'

/-- A name of a variable. -/
def isName (s : List Char) : Bool :=
  s.all isNameChar && (s.head?.map fun c => !c.isDigit).getD false

/-- A parameter whose name is one sign. -/
def isSpecial (c : Char) : Bool := "@*#?$!-".toList.contains c

/-- A character that ends a word. -/
def endsWord (c : Char) : Bool := " \t\n;&|<>()".toList.contains c

/-- The word with one more piece; plain characters are collected. -/
def Word.push (w : Word) (p : Part) : Word :=
  match w.getLast?, p with
  | some (.text a false), .text b false => w.dropLast ++ [.text (a ++ b) false]
  | _, _ => w ++ [p]

/-- The text up to a closing sign of the same depth, and what follows it. Signs in single quotes do
not count. -/
def balanced (opening closing : Char) : (depth : Nat) → List Char → Option (List Char × List Char)
  | _, [] => none
  | depth, '\\' :: c :: rest =>
    (balanced opening closing depth rest).map fun (a, b) => ('\\' :: c :: a, b)
  | depth, c :: rest =>
    if c = closing then
      match depth with
      | 0 => some ([], rest)
      | depth + 1 => (balanced opening closing depth rest).map fun (a, b) => (c :: a, b)
    else
      (balanced opening closing (if c = opening then depth + 1 else depth) rest).map
        fun (a, b) => (c :: a, b)

/-- The piece in braces: a name, perhaps with a fallback. -/
def braced (s : List Char) (quoted : Bool) : Part :=
  let name := s.takeWhile fun c => isNameChar c || (isSpecial c && c ≠ '-')
  match s.drop name.length with
  | ':' :: '-' :: rest => .param (String.ofList name) (some (String.ofList rest)) quoted
  | '-' :: rest => .param (String.ofList name) (some (String.ofList rest)) quoted
  | _ => .param (String.ofList name) none quoted

/-- The piece after a dollar sign, and what follows it. -/
def dollar (quoted : Bool) : List Char → Option (Part × List Char)
  | '(' :: '(' :: rest => do
    let (source, rest) ← balanced '(' ')' 1 rest
    some (.sum (String.ofList source.dropLast) quoted, rest)
  | '(' :: rest => do
    let (source, rest) ← balanced '(' ')' 0 rest
    some (.output (String.ofList source) quoted, rest)
  | '\x7b' :: rest => do
    let (source, rest) ← balanced '\x7b' '\x7d' 0 rest
    some (braced source quoted, rest)
  | c :: rest =>
    if c.isDigit || isSpecial c then some (.param c.toString none quoted, rest)
    else
      let name := (c :: rest).takeWhile isNameChar
      if name.isEmpty then some (.text "$" quoted, c :: rest)
      else some (.param (String.ofList name) none quoted, (c :: rest).drop name.length)
  | [] => some (.text "$" quoted, [])

/-- The pieces of a text in double quotes, up to the closing quote, and what follows it. -/
def doubleQuoted : (fuel : Nat) → Word → List Char → Option (Word × List Char)
  | 0, _, _ => none
  | _, _, [] => none
  | fuel + 1, w, c :: rest =>
    match c, rest with
    | '"', _ => some (w, rest)
    | '\\', d :: rest =>
      if d = '\n' then doubleQuoted fuel w rest
      else if "$\x60\"\\".toList.contains d then
        doubleQuoted fuel (w.push (.text d.toString true)) rest
      else doubleQuoted fuel (w.push (.text (String.ofList ['\\', d]) true)) rest
    | '$', _ => do
      let (p, rest) ← dollar true rest
      doubleQuoted fuel (w.push p) rest
    | '\x60', _ => do
      let (source, rest) ← Text.splitOnce '\x60' rest
      doubleQuoted fuel (w.push (.output (String.ofList source) true)) rest
    | _, _ => doubleQuoted fuel (w.push (.text c.toString true)) rest

/-- The pieces of a word, and what follows it. -/
def wordFrom : (fuel : Nat) → Word → List Char → Option (Word × List Char)
  | 0, _, _ => none
  | _, w, [] => some (w, [])
  | fuel + 1, w, c :: rest =>
    match c, rest with
    | '\\', d :: rest =>
      if d = '\n' then wordFrom fuel w rest else wordFrom fuel (w.push (.text d.toString true)) rest
    | '\'', _ => do
      let (s, rest) ← Text.splitOnce '\'' rest
      wordFrom fuel (w.push (.text (String.ofList s) true)) rest
    | '"', _ => do
      let (parts, rest) ← doubleQuoted fuel [.text "" true] rest
      wordFrom fuel (w ++ parts) rest
    | '$', _ => do
      let (p, rest) ← dollar false rest
      wordFrom fuel (w.push p) rest
    | '\x60', _ => do
      let (source, rest) ← Text.splitOnce '\x60' rest
      wordFrom fuel (w.push (.output (String.ofList source) false)) rest
    | _, _ =>
      if endsWord c then some (w, c :: rest)
      else wordFrom fuel (w.push (.text c.toString false)) rest

/-- The operators, a longer one before those that begin it. -/
def operators : List String := ["&&", "||", ";;", ";", "&", "|", "(", ")", "\n"]

/-- The operators of redirections. -/
def redirections : List String := [">>", ">&", "<&", ">|", ">", "<"]

/-- The first of some operators that a text begins with, and what follows it. -/
def operator? (names : List String) (s : List Char) : Option (String × List Char) :=
  names.findSome? fun name => (Text.strip? name.toList s).map fun rest => (name, rest)

/-- The tokens of a script. -/
def tokensFrom : (fuel : Nat) → List Char → Option (List Token)
  | 0, _ => none
  | _, [] => some []
  | fuel + 1, c :: rest =>
    if c = ' ' || c = '\t' then tokensFrom fuel rest
    else if c = '#' then tokensFrom fuel (rest.dropWhile (· ≠ '\n'))
    else if c = '\\' && rest.head? = some '\n' then tokensFrom fuel rest.tail
    else match operator? operators (c :: rest) with
      | some (s, rest) => (tokensFrom fuel rest).map (.op s :: ·)
      | none =>
        let digits := (c :: rest).takeWhile Char.isDigit
        match operator? redirections ((c :: rest).drop digits.length) with
        | some (s, rest) =>
          let stream := if digits.isEmpty then none else (String.ofList digits).toNat?
          (tokensFrom fuel rest).map (.redirect stream s :: ·)
        | none => do
          let (w, rest) ← wordFrom (rest.length + 2) [] (c :: rest)
          (tokensFrom fuel rest).map (.word w :: ·)

/-- The tokens of a script; there are none if a quote or a bracket is left open. -/
def tokens? (s : List Char) : Option (List Token) := tokensFrom (s.length + 1) s

end Uplift.Shell
