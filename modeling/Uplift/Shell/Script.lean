/-! # Scripts

The programs outside are scripts as often as not: build wrappers, servers and assistants that are a
few lines of shell. These are the parts of a script; `Script.parse` reads them and `Shell.eval` runs
them.
-/

namespace Uplift.Shell

/-- A piece of a word. What stands in quotes is neither cut at blanks nor dropped when empty. -/
inductive Part where
  | text (s : String) (quoted : Bool)
  /-- The value of a parameter, or of `fallback` if that is empty and there is one. -/
  | param (name : String) (fallback : Option String) (quoted : Bool)
  /-- The value of an arithmetic expression. -/
  | sum (source : String) (quoted : Bool)
  /-- What a script writes. -/
  | output (source : String) (quoted : Bool)
deriving DecidableEq, Repr

/-- A word, to be expanded to fields. -/
abbrev Word := List Part

/-- A change of the streams of a command, by their numbers. -/
inductive Redirect where
  | read (target : Word)
  | write (stream : Nat) (target : Word) (append : Bool)
  | copy (stream source : Nat)
  | close (stream : Nat)
deriving DecidableEq, Repr

/-- A script. -/
inductive Script where
  | skip
  | simple (assigned : List (String × Word)) (words : List Word) (redirects : List Redirect)
  | seq (first next : Script)
  /-- The second only if the first succeeds. -/
  | both (first next : Script)
  /-- The second only if the first fails. -/
  | either (first next : Script)
  | negate (body : Script)
  | pipe (first next : Script)
  | group (body : Script) (redirects : List Redirect)
  /-- A group that keeps its variables to itself. -/
  | inside (body : Script) (redirects : List Redirect)
  | choose (test yes no : Script)
  /-- Repeats the body as long as the test succeeds, or as long as it fails. -/
  | loop (whileTrue : Bool) (test body : Script)
  | each (name : String) (words : List Word) (body : Script)
  | pick (word : Word) (patterns : List Word) (yes no : Script)
deriving DecidableEq, Repr

end Uplift.Shell
