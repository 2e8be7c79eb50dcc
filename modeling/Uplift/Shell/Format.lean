import Uplift.Text.Lines
import Uplift.Text.Blank
/-! # Output of scripts

* `escaped` writes a text with its escapes, as `echo` does in a script.
* `Format.write` writes arguments under a format, as `printf` does; the format is used again as long
  as there are arguments.
-/

namespace Uplift.Shell

/-- The byte of an escape that is one letter. -/
def escapeByte? (c : Char) : Option UInt8 :=
  match c with
  | 'a' => some 7
  | 'b' => some 8
  | 'f' => some 12
  | 'n' => some 10
  | 'r' => some 13
  | 't' => some 9
  | 'v' => some 11
  | '\\' => some 92
  | _ => none

/-- An octal digit. -/
def isOctal (c : Char) : Bool := '0' ≤ c && c ≤ '7'

/-- The bytes of a character. -/
def charBytes (c : Char) : List UInt8 := Text.toBytes c.toString

/-- The byte that octal digits spell. -/
def octalByte (digits : List Char) : UInt8 :=
  UInt8.ofNat (digits.foldl (fun n c => n * 8 + (c.toNat - '0'.toNat)) 0)

/-- The bytes of an escape, and what follows it. A zero may stand before the octal digits if
`zeroLead` is set. -/
def escape (zeroLead : Bool) (s : List Char) : List UInt8 × List Char :=
  match s with
  | [] => ([92], [])
  | c :: rest =>
    if isOctal c then
      let s := if zeroLead && c = '0' then rest else s
      let digits := (s.take 3).takeWhile isOctal
      ([octalByte digits], s.drop digits.length)
    else match escapeByte? c with
      | some b => ([b], rest)
      | none => (92 :: charBytes c, rest)

/-- The bytes of a text with escapes, and whether it is to be the end of all output. -/
def escapedFrom : (fuel : Nat) → List Char → List UInt8 × Bool
  | 0, _ => ([], false)
  | _, [] => ([], false)
  | fuel + 1, c :: rest =>
    if c = '\\' then
      if rest.head? = some 'c' then ([], true)
      else
        let (bytes, rest) := escape true rest
        let (more, ended) := escapedFrom fuel rest
        (bytes ++ more, ended)
    else
      let (more, ended) := escapedFrom fuel rest
      (charBytes c ++ more, ended)

/-- The bytes of a text with escapes, and whether it is to be the end of all output. -/
def escaped (s : String) : List UInt8 × Bool := escapedFrom (s.length + 1) s.toList

namespace Format

/-- How a value is laid out. -/
structure Layout where
  left : Bool := false
  zero : Bool := false
  plus : Bool := false
  width : Nat := 0
  precision : Option Nat := none

/-- A number at the beginning, and what follows it. -/
def natural (s : List Char) : Nat × List Char :=
  let digits := s.takeWhile Char.isDigit
  ((String.ofList digits).toNat?.getD 0, s.drop digits.length)

/-- The flags at the beginning, and what follows them. -/
def flags (l : Layout) : List Char → Layout × List Char
  | '-' :: rest => flags { l with left := true } rest
  | '0' :: rest => flags { l with zero := true } rest
  | '+' :: rest => flags { l with plus := true } rest
  | s => (l, s)

/-- The layout at the beginning, and what follows it. -/
def layout (s : List Char) : Layout × List Char :=
  let (l, s) := flags {} s
  let (width, s) := natural s
  let l := { l with width }
  match s with
  | '.' :: rest =>
    let (p, rest) := natural rest
    ({ l with precision := some p }, rest)
  | s => (l, s)

/-- The text filled up to the width. -/
def fill (l : Layout) (numeric : Bool) (s : List Char) : List Char :=
  let missing := l.width - s.length
  if l.left then s ++ List.replicate missing ' '
  else if l.zero && numeric then
    match s with
    | '-' :: rest => '-' :: List.replicate missing '0' ++ rest
    | s => List.replicate missing '0' ++ s
  else List.replicate missing ' ' ++ s

/-- The value of an argument as a number; one that is none counts as zero. -/
def number (arg : String) : Int :=
  match Text.trim arg.toList with
  | '\'' :: c :: _ => c.toNat
  | '"' :: c :: _ => c.toNat
  | '-' :: rest => -((natural rest).1 : Int)
  | '+' :: rest => (natural rest).1
  | s => (natural s).1

/-- The bytes of one conversion. -/
def convert (l : Layout) (kind : Char) (arg : String) : List UInt8 × Bool :=
  let text (numeric : Bool) (s : List Char) : List UInt8 × Bool :=
    (Text.toBytes (String.ofList (fill l numeric s)), false)
  let inBase (base : Nat) : List Char := Nat.toDigits base (number arg).toNat
  match kind with
  | 's' => text false (match l.precision with
      | some p => arg.toList.take p
      | none => arg.toList)
  | 'b' => escaped arg
  | 'c' => text false (arg.toList.take 1)
  | 'd' | 'i' | 'u' =>
    let n := number arg
    text true ((if l.plus && 0 ≤ n then "+" else "") ++ toString n).toList
  | 'o' => text true (inBase 8)
  | 'x' => text true (inBase 16)
  | 'X' => text true ((inBase 16).map Char.toUpper)
  | c => text false ['%', c]

/-- Writes arguments under a format once: the bytes, the arguments that are left, and whether it is
to be the end. -/
def once : (fuel : Nat) → List Char → List String → List UInt8 × List String × Bool
  | 0, _, args => ([], args, false)
  | _, [], args => ([], args, false)
  | fuel + 1, c :: rest, args =>
    match c, rest with
    | '\\', _ =>
      if rest.head? = some 'c' then ([], args, true)
      else
        let (bytes, rest) := escape false rest
        let (more, args, ended) := once fuel rest args
        (bytes ++ more, args, ended)
    | '%', '%' :: rest =>
      let (more, args, ended) := once fuel rest args
      (37 :: more, args, ended)
    | '%', _ =>
      let (l, rest) := layout rest
      match rest with
      | [] => ([37], args, false)
      | kind :: rest =>
        let (bytes, ended) := convert l kind (args.headD "")
        if ended then (bytes, args.tail, true)
        else
          let (more, args, ended) := once fuel rest args.tail
          (bytes ++ more, args, ended)
    | _, _ =>
      let (more, args, ended) := once fuel rest args
      (charBytes c ++ more, args, ended)

/-- Writes arguments under a format. -/
def writeFrom (format : List Char) : (fuel : Nat) → List String → List UInt8
  | 0, _ => []
  | fuel + 1, args =>
    let (bytes, left, ended) := once (format.length + 1) format args
    if ended || left.isEmpty || left.length = args.length then bytes
    else bytes ++ writeFrom format fuel left

/-- Writes arguments under a format. -/
def write (format : String) (args : List String) : List UInt8 :=
  writeFrom format.toList (args.length + 1) args

end Format

end Uplift.Shell
