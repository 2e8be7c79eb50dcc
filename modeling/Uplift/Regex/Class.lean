import Uplift.Text.Blank
import Uplift.Text.CaseFold
import Uplift.Text.Category
/-! # Classes of characters

What one character of a regular expression may be. A class is an expression over ranges and named
properties; `Class.contains` evaluates it, and `Class.stretches` says how large it is.
-/

namespace Uplift.Regex

open Text

/-- A class of characters. -/
inductive Class where
  | ranges (rs : List (Nat × Nat))
  | categories (ks : List Category)
  | assigned
  | word
  | space
  | complement (k : Class)
  | union (a b : Class)
  | inter (a b : Class)
  | diff (a b : Class)
  | symmDiff (a b : Class)
  | caseless (k : Class)
  | asciiCaseless (k : Class)
deriving Inhabited

namespace Class

/-- No character. -/
def nothing : Class := .ranges []

/-- One character. -/
def only (c : Char) : Class := .ranges [(c.toNat, c.toNat)]

/-- Every character. -/
def anything : Class := .ranges [(0, 0x10FFFF)]

/-- The characters of any of some classes. -/
def any (ks : List Class) : Class := ks.foldr .union nothing

/-- Classes, each under all of its names. -/
abbrev Named := List (List String × Class)

/-- The class with a name. -/
def Named.find? (ks : Named) (name : String) : Option Class :=
  (List.find? (·.1.contains name) ks).map (·.2)

/-- Digits of any script. -/
def digit : Class := .categories [.decimalNumber]

/-- A character is in a class. -/
def contains : Class → Char → Bool
  | ranges rs, c => Category.inRanges c.toNat rs
  | categories ks, c => ks.any (·.contains c)
  | assigned, c => Category.all.any (·.contains c)
  | word, c => Category.isWord c
  | space, c => isBlank c
  | complement k, c => !k.contains c
  | union a b, c => a.contains c || b.contains c
  | inter a b, c => a.contains c && b.contains c
  | diff a b, c => a.contains c && !b.contains c
  | symmDiff a b, c => a.contains c != b.contains c
  | caseless k, c => (CaseFold.same c).any k.contains
  | asciiCaseless k, c => k.contains c || k.contains c.toLower || k.contains c.toUpper

/-- About how many stretches of characters a class has. -/
def stretches : Class → Nat
  | ranges rs => rs.length
  | categories ks => (ks.map fun k => k.ranges.length + k.alternate.length).sum
  | assigned | word => 760
  | space => 10
  | complement k => k.stretches + 1
  | union a b | inter a b | diff a b | symmDiff a b => a.stretches + b.stretches
  | caseless k | asciiCaseless k => 2 * k.stretches

/-- The ASCII classes that are written between colons. -/
def posix? (name : String) : Option Class :=
  let upper := (0x41, 0x5A)
  let lower := (0x61, 0x7A)
  let digits := (0x30, 0x39)
  match name with
  | "alnum" => some (.ranges [digits, upper, lower])
  | "alpha" => some (.ranges [upper, lower])
  | "ascii" => some (.ranges [(0, 0x7F)])
  | "blank" => some (.ranges [(0x09, 0x09), (0x20, 0x20)])
  | "cntrl" => some (.ranges [(0, 0x1F), (0x7F, 0x7F)])
  | "digit" => some (.ranges [digits])
  | "graph" => some (.ranges [(0x21, 0x7E)])
  | "lower" => some (.ranges [lower])
  | "print" => some (.ranges [(0x20, 0x7E)])
  | "punct" => some (.ranges [(0x21, 0x2F), (0x3A, 0x40), (0x5B, 0x60), (0x7B, 0x7E)])
  | "space" => some (.ranges [(0x09, 0x0D), (0x20, 0x20)])
  | "upper" => some (.ranges [upper])
  | "word" => some (.ranges [digits, upper, (0x5F, 0x5F), lower])
  | "xdigit" => some (.ranges [digits, (0x41, 0x46), (0x61, 0x66)])
  | _ => none

end Class

end Uplift.Regex
