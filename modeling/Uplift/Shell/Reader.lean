import Uplift.Shell.Token
/-! # Reading scripts

* `Script.parse?` reads a script: lists of pipelines of commands, with their redirections.
-/

namespace Uplift.Shell

namespace Script

/-- A word that is spelled so. -/
def isKeyword (name : String) : Token → Bool
  | .word w => w.plain? = some name
  | _ => false

/-- Words that end a list. -/
def closers : List String := ["then", "else", "elif", "fi", "do", "done", "esac", "\x7d"]

/-- What follows the line ends at the beginning. -/
def skipLines (ts : List Token) : List Token := ts.dropWhile (· = .op "\n")

/-- A list is over. -/
def isOver : List Token → Bool
  | [] => true
  | .op s :: _ => s = ")" || s = ";;"
  | t :: _ => closers.any fun name => isKeyword name t

/-- The variable and the value of an assignment. -/
def assignment? : Word → Option (String × Word)
  | .text s false :: rest => do
    let (name, value) ← Text.splitOnce '=' s.toList
    if isName name then some (String.ofList name, .text (String.ofList value) true :: rest)
    else none
  | _ => none

/-- One redirection, and what follows it. -/
def redirect? (stream : Option Nat) (s : String) : List Token → Option (Redirect × List Token)
  | .word w :: rest =>
    let number := w.plain?.bind String.toNat?
    match s with
    | "<" => some (.read w, rest)
    | ">>" => some (.write (stream.getD 1) w true, rest)
    | ">" | ">|" => some (.write (stream.getD 1) w false, rest)
    | _ =>
      let own := stream.getD (if s = "<&" then 0 else 1)
      if w.plain? = some "-" then some (.close own, rest)
      else number.map fun n => (.copy own n, rest)
  | _ => none

/-- The redirections at the beginning, and what follows them. -/
def redirects : (fuel : Nat) → List Token → Option (List Redirect × List Token)
  | 0, _ => none
  | fuel + 1, .redirect stream s :: rest => do
    let (r, rest) ← redirect? stream s rest
    let (more, rest) ← redirects fuel rest
    some (r :: more, rest)
  | _, ts => some ([], ts)

/-- The parts of a simple command, and what follows it. -/
def simpleFrom : (fuel : Nat) → List (String × Word) → List Word → List Redirect → List Token →
    Option (Script × List Token)
  | 0, _, _, _, _ => none
  | fuel + 1, assigned, words, rs, ts =>
    match ts with
    | .redirect stream s :: rest => do
      let (r, rest) ← redirect? stream s rest
      simpleFrom fuel assigned words (rs ++ [r]) rest
    | .word w :: rest =>
      match (if words.isEmpty then assignment? w else none) with
      | some a => simpleFrom fuel (assigned ++ [a]) words rs rest
      | none => simpleFrom fuel assigned (words ++ [w]) rs rest
    | _ =>
      if assigned.isEmpty && words.isEmpty && rs.isEmpty then none
      else some (.simple assigned words rs, ts)

/-- What follows a keyword that must come next. -/
def expect (name : String) : List Token → Option (List Token)
  | t :: rest => if isKeyword name t then some rest else none
  | [] => none

/-- What follows an operator that must come next. -/
def expectOp (s : String) : List Token → Option (List Token)
  | t :: rest => if t = .op s then some rest else none
  | [] => none

/-- The words at the beginning, and what follows them. -/
def wordsOf : List Token → List Word × List Token
  | .word w :: rest => let (ws, rest) := wordsOf rest; (w :: ws, rest)
  | ts => ([], ts)

/-- The patterns of a branch up to its bracket, and what follows that. -/
def patterns : List Token → Option (List Word × List Token)
  | .word w :: .op "|" :: rest => (patterns rest).map fun (ws, rest) => (w :: ws, rest)
  | .word w :: .op ")" :: rest => some ([w], rest)
  | _ => none

/-- What follows a separator between the head of a loop and its body. -/
def skipSeparator : List Token → List Token
  | .op ";" :: rest => skipLines rest
  | ts => skipLines ts

mutual

/-- A list of commands, and what follows it. -/
def listFrom : (fuel : Nat) → List Token → Option (Script × List Token)
  | 0, _ => none
  | fuel + 1, ts =>
    let ts := skipLines ts
    if isOver ts then some (.skip, ts)
    else do
      let (first, rest) ← chainFrom fuel ts
      match rest with
      | .op s :: rest' =>
        if s = ";" || s = "\n" || s = "&" then do
          let (next, rest) ← listFrom fuel rest'
          some (if next = .skip then first else .seq first next, rest)
        else some (first, rest)
      | _ => some (first, rest)

/-- Pipelines that depend on each other, and what follows them. -/
def chainFrom : (fuel : Nat) → List Token → Option (Script × List Token)
  | 0, _ => none
  | fuel + 1, ts => do
    let (first, rest) ← pipelineFrom fuel ts
    moreChain fuel first rest

/-- Appends what depends on a chain. -/
def moreChain : (fuel : Nat) → Script → List Token → Option (Script × List Token)
  | 0, _, _ => none
  | fuel + 1, first, ts =>
    match ts with
    | .op "&&" :: rest => do
      let (next, rest) ← pipelineFrom fuel (skipLines rest)
      moreChain fuel (.both first next) rest
    | .op "||" :: rest => do
      let (next, rest) ← pipelineFrom fuel (skipLines rest)
      moreChain fuel (.either first next) rest
    | _ => some (first, ts)

/-- A pipeline, and what follows it. -/
def pipelineFrom : (fuel : Nat) → List Token → Option (Script × List Token)
  | 0, _ => none
  | fuel + 1, ts =>
    match expect "!" ts with
    | some rest => (pipelineFrom fuel rest).map fun (c, rest) => (.negate c, rest)
    | none => do
      let (first, rest) ← commandFrom fuel ts
      match rest with
      | .op "|" :: rest => do
        let (next, rest) ← pipelineFrom fuel (skipLines rest)
        some (.pipe first next, rest)
      | _ => some (first, rest)

/-- A command, and what follows it. -/
def commandFrom : (fuel : Nat) → List Token → Option (Script × List Token)
  | 0, _ => none
  | fuel + 1, ts =>
    let wrap (c : Script) (rest : List Token) : Option (Script × List Token) := do
      let (rs, rest) ← redirects fuel rest
      some (if rs.isEmpty then c else .group c rs, rest)
    match ts with
    | .op "(" :: rest => do
      let (body, rest) ← listFrom fuel rest
      let (rs, rest) ← redirects fuel (← expectOp ")" rest)
      some (.inside body rs, rest)
    | .word w :: rest =>
      match w.plain? with
      | some "\x7b" => do
        let (body, rest) ← listFrom fuel rest
        wrap body (← expect "\x7d" rest)
      | some "if" => do
        let (c, rest) ← choiceFrom fuel rest
        wrap c rest
      | some "while" => do
        let (c, rest) ← loopFrom fuel true rest
        wrap c rest
      | some "until" => do
        let (c, rest) ← loopFrom fuel false rest
        wrap c rest
      | some "for" =>
        match rest with
        | .word v :: rest => do
          let name ← v.plain?
          let (words, rest) := match expect "in" (skipLines rest) with
            | some rest => wordsOf rest
            | none => ([[.param "@" none true]], rest)
          let (body, rest) ← listFrom fuel (← expect "do" (skipSeparator rest))
          wrap (.each name words body) (← expect "done" rest)
        | _ => none
      | some "case" =>
        match rest with
        | .word v :: rest => do
          let (c, rest) ← branchesFrom fuel v (skipLines (← expect "in" (skipLines rest)))
          wrap c rest
        | _ => none
      | _ => simpleFrom (ts.length + 1) [] [] [] ts
    | _ => simpleFrom (ts.length + 1) [] [] [] ts

/-- What follows the keyword of a choice, up to its end. -/
def choiceFrom : (fuel : Nat) → List Token → Option (Script × List Token)
  | 0, _ => none
  | fuel + 1, ts => do
    let (test, rest) ← listFrom fuel ts
    let (yes, rest) ← listFrom fuel (← expect "then" rest)
    match expect "elif" rest with
    | some rest => do
      let (no, rest) ← choiceFrom fuel rest
      some (.choose test yes no, rest)
    | none =>
      match expect "else" rest with
      | some rest => do
        let (no, rest) ← listFrom fuel rest
        some (.choose test yes no, ← expect "fi" rest)
      | none => some (.choose test yes .skip, ← expect "fi" rest)

/-- What follows the keyword of a loop, up to its end. -/
def loopFrom : (fuel : Nat) → Bool → List Token → Option (Script × List Token)
  | 0, _, _ => none
  | fuel + 1, whileTrue, ts => do
    let (test, rest) ← listFrom fuel ts
    let (body, rest) ← listFrom fuel (← expect "do" rest)
    some (.loop whileTrue test body, ← expect "done" rest)

/-- The branches of a case, up to its end. -/
def branchesFrom : (fuel : Nat) → Word → List Token → Option (Script × List Token)
  | 0, _, _ => none
  | fuel + 1, w, ts =>
    let ts := skipLines ts
    match expect "esac" ts with
    | some rest => some (.skip, rest)
    | none => do
      let (ps, rest) ← patterns (match ts with
        | .op "(" :: rest => rest
        | ts => ts)
      let (yes, rest) ← listFrom fuel rest
      let rest := match rest with
        | .op ";;" :: rest => rest
        | rest => rest
      let (no, rest) ← branchesFrom fuel w rest
      some (.pick w ps yes no, rest)

end

/-- Reads a script. -/
def parse? (s : String) : Option Script := do
  let ts ← tokens? s.toList
  let (c, rest) ← listFrom (8 * ts.length + 8) ts
  if rest.isEmpty then some c else none

end Script

end Uplift.Shell
