import Uplift.Regex.Class
/-! # Regular expressions

An expression matches stretches of a line. What matters is where the first match begins, so the
choices between longer and shorter matches are not kept.

* `Regex.ends`: where a match that begins at a spot can end.
* `Regex.find?`: how many characters stand before the first match.
* `Regex.size`: what an expression takes up; one that is larger than `Regex.maxSize` is refused.
-/

namespace Uplift

namespace Regex

/-- A spot in a text: the character before it, and the rest with its length. -/
structure Spot where
  before : Option Char
  rest : List Char
  left : Nat

namespace Spot

/-- The character after a spot. -/
def after (s : Spot) : Option Char := s.rest.head?

end Spot

/-- A condition on what stands before and after a spot. -/
inductive Look where
  | textStart | textEnd
  | lineStart (crlf : Bool) | lineEnd (crlf : Bool)
  | wordEdge (ascii negated : Bool)
  | wordStart (ascii : Bool) | wordEnd (ascii : Bool)
  | wordStartHalf (ascii : Bool) | wordEndHalf (ascii : Bool)

namespace Look

/-- There is a character, and it belongs to words. -/
def isWord (ascii : Bool) (c : Option Char) : Bool :=
  match c with
  | some c => if ascii then c.isAlphanum || c = '_' else Text.Category.isWord c
  | none => false

/-- A condition holds at a spot. -/
def holds (l : Look) (s : Spot) : Bool :=
  match l with
  | textStart => s.before.isNone
  | textEnd => s.rest.isEmpty
  | lineStart crlf =>
    s.before.isNone || s.before = some '\n' ||
      (crlf && s.before = some '\r' && s.after ≠ some '\n')
  | lineEnd crlf =>
    s.rest.isEmpty ||
      (if crlf then s.after = some '\r' || (s.after = some '\n' && s.before ≠ some '\r')
      else s.after = some '\n')
  | wordEdge ascii negated => (isWord ascii s.before != isWord ascii s.after) != negated
  | wordStart ascii => !isWord ascii s.before && isWord ascii s.after
  | wordEnd ascii => isWord ascii s.before && !isWord ascii s.after
  | wordStartHalf ascii => !isWord ascii s.before
  | wordEndHalf ascii => !isWord ascii s.after

end Look

end Regex

/-- A regular expression. -/
inductive Regex where
  | empty
  | one (k : Regex.Class)
  | look (l : Regex.Look)
  | seq (a b : Regex)
  | alt (a b : Regex)
  | times (r : Regex) (least : Nat) (most : Option Nat)
deriving Inhabited

namespace Regex

/-- About how many bytes an expression takes when its repetitions are written out. -/
def size : Regex → Nat
  | empty | look _ => 0
  | one k => if k.stretches ≤ 1 then 32 else 64 * k.stretches
  | seq a b => a.size + b.size
  | alt a b => a.size + b.size + 32
  | times r least none => max 1 least * r.size
  | times r _ (some most) => most * r.size

/-- The size that an expression may have. -/
def maxSize : Nat := 10 * Nat.pow 2 20

/-- Spots of one text, each once. -/
def distinct (ss : List Spot) : List Spot :=
  ss.foldr (fun s acc => if acc.any (·.left = s.left) then acc else s :: acc) []

/-- Spots after exactly so many steps. -/
def steps (step : List Spot → List Spot) : Nat → List Spot → List Spot
  | 0, ss => ss
  | n + 1, ss => if ss.isEmpty then ss else steps step n (step ss)

/-- Spots after at most so many steps: those that are `seen`, and those that are newly reached. -/
def grow (step : List Spot → List Spot) : Nat → (seen new : List Spot) → List Spot
  | 0, seen, _ => seen
  | n + 1, seen, new =>
    let next := (step new).filter fun s => !seen.any (·.left = s.left)
    if next.isEmpty then seen else grow step n (seen ++ next) next

/-- The spots where a match that begins at `s` can end. -/
def ends : Regex → Spot → List Spot
  | empty, s => [s]
  | one k, s =>
    match s.rest with
    | c :: rest => if k.contains c then [⟨some c, rest, s.left - 1⟩] else []
    | [] => []
  | look l, s => if l.holds s then [s] else []
  | seq a b, s => distinct ((a.ends s).flatMap b.ends)
  | alt a b, s => distinct (a.ends s ++ b.ends s)
  | times r least most, s =>
    let step (ss : List Spot) : List Spot := distinct (ss.flatMap r.ends)
    let reached := steps step least [s]
    match most with
    | some m => grow step (m - least) reached reached
    | none => grow step (s.left + 1) reached reached

/-- How many characters stand before the first match at or after a spot. -/
def findFrom (r : Regex) (skipped : Nat) (before : Option Char) : List Char → Option Nat
  | [] => if (r.ends ⟨before, [], 0⟩).isEmpty then none else some skipped
  | c :: rest =>
    if (r.ends ⟨before, c :: rest, rest.length + 1⟩).isEmpty then
      findFrom r (skipped + 1) (some c) rest
    else some skipped

/-- How many characters stand before the first match in a text. -/
def find? (r : Regex) (text : List Char) : Option Nat := findFrom r 0 none text

end Regex

end Uplift
