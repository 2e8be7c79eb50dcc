/-! # Instants

A moment of time in UTC: the day, the second of the day, and nanoseconds. A leap second keeps the
number of the second before it, with a thousand million nanoseconds more.

* `Instant.parse?` reads the form of RFC 3339 with any offset; `Instant.text` writes it in UTC.
-/

namespace Uplift

/-- A moment of time. Days count from the first of March of the year zero. -/
structure Instant where
  day : Int
  second : Nat
  nano : Nat
deriving DecidableEq, Repr, Inhabited

namespace Instant

/-- The number of a day. -/
def dayOf (year : Int) (month day : Nat) : Int :=
  let y := if month ≤ 2 then year - 1 else year
  let m : Nat := (month + 9) % 12
  let era := y.fdiv 400
  let yearOfEra := y - era * 400
  let dayOfYear : Int := ((153 * m + 2) / 5 + (day - 1) : Nat)
  era * 146097 + yearOfEra * 365 + yearOfEra / 4 - yearOfEra / 100 + dayOfYear

/-- Year, month and day of a day's number. -/
def dateOf (n : Int) : Int × Nat × Nat :=
  let era := n.fdiv 146097
  let dayOfEra := n - era * 146097
  let yearOfEra := (dayOfEra - dayOfEra / 1460 + dayOfEra / 36524 - dayOfEra / 146096) / 365
  let dayOfYear := (dayOfEra - (365 * yearOfEra + yearOfEra / 4 - yearOfEra / 100)).toNat
  let m := (5 * dayOfYear + 2) / 153
  let day := dayOfYear - (153 * m + 2) / 5 + 1
  let month := if m < 10 then m + 3 else m - 9
  let year := yearOfEra + era * 400 + (if month ≤ 2 then 1 else 0)
  (year, month, day)

/-- A year has a twenty-ninth of February. -/
def isLeap (year : Int) : Bool := (year % 4 = 0 && year % 100 ≠ 0) || year % 400 = 0

/-- The number of days of a month. -/
def daysIn (year : Int) (month : Nat) : Nat :=
  match month with
  | 2 => if isLeap year then 29 else 28
  | 4 | 6 | 9 | 11 => 30
  | _ => 31

/-- The number that digits spell. -/
def number (ds : List Char) : Nat := ds.foldl (fun n c => n * 10 + (c.toNat - '0'.toNat)) 0

/-- One or two digits at the head of a text. -/
def upTo2? (s : List Char) : Option (Nat × List Char) :=
  let ds := (s.take 2).takeWhile Char.isDigit
  if ds.isEmpty then none else some (number ds, s.drop ds.length)

/-- The text after a character. -/
def after? (c : Char) : List Char → Option (List Char)
  | d :: rest => if d = c then some rest else none
  | [] => none

/-- A year: four digits, or any number of them after a sign. -/
def year? (s : List Char) : Option (Int × List Char) :=
  let signed (s : List Char) : Option (Nat × List Char) :=
    let ds := s.takeWhile Char.isDigit
    if ds.isEmpty then none else some (number ds, s.drop ds.length)
  match s with
  | '-' :: rest => (signed rest).map fun (n, r) => (-(n : Int), r)
  | '+' :: rest => (signed rest).map fun (n, r) => ((n : Int), r)
  | _ =>
    let ds := (s.take 4).takeWhile Char.isDigit
    if ds.isEmpty then none else some ((number ds : Int), s.drop ds.length)

/-- Nanoseconds after a point; digits after the ninth are dropped. -/
def fraction? (s : List Char) : Option (Nat × List Char) :=
  match s with
  | '.' :: rest =>
    let ds := rest.takeWhile Char.isDigit
    if ds.isEmpty then none
    else
      let nine := ds.take 9
      some (number nine * Nat.pow 10 (9 - nine.length), rest.drop ds.length)
  | _ => some (0, s)

/-- An offset from UTC in seconds, at the end of a text. -/
def offset? (s : List Char) : Option Int :=
  match s.dropWhile (· = ' ') with
  | ['Z'] | ['z'] => some 0
  | sign :: a :: b :: rest =>
    let rest := match rest.dropWhile (· = ' ') with
      | ':' :: more => more.dropWhile (· = ' ')
      | more => more
    match rest with
    | [c, d] =>
      if [a, b, c, d].all Char.isDigit && number [c, d] < 60 then
        let seconds : Int := (number [a, b] * 3600 + number [c, d] * 60 : Nat)
        if sign = '+' then some seconds else if sign = '-' then some (-seconds) else none
      else none
    | _ => none
  | _ => none

/-- The moment that a text names. -/
def parse? (text : String) : Option Instant := do
  let (year, s) ← year? text.toList
  let (month, s) ← upTo2? (← after? '-' s)
  let (day, s) ← upTo2? (← after? '-' s)
  let s ← match s with
    | c :: rest => if c = 'T' || c = 't' || c = ' ' then some rest else none
    | [] => none
  let (hour, s) ← upTo2? s
  let (minute, s) ← upTo2? (← after? ':' s)
  let (second, s) ← upTo2? (← after? ':' s)
  let (nano, s) ← fraction? s
  let offset ← offset? s
  if month = 0 || month > 12 || day = 0 || day > daysIn year month then none
  else if hour > 23 || minute > 59 || second > 60 then none
  else if offset.natAbs ≥ 86400 then none
  else
    let leap := second = 60
    let clock : Int := (hour * 3600 + minute * 60 + (if leap then 59 else second) : Nat)
    let total := clock - offset
    some
      { day := dayOf year month day + total.fdiv 86400
        second := (total.fmod 86400).toNat
        nano := if leap then nano + 1000000000 else nano }

/-- A number with zeros before it, up to a given count of digits. -/
def padded (count n : Nat) : String :=
  let ds := Nat.toDigits 10 n
  String.ofList (List.replicate (count - ds.length) '0' ++ ds)

/-- The written form in UTC, with no, three, six or nine digits of the second's fraction. -/
def text (t : Instant) : String :=
  let (year, month, day) := dateOf t.day
  let (second, nano) :=
    if t.nano ≥ 1000000000 then (t.second % 60 + 1, t.nano - 1000000000)
    else (t.second % 60, t.nano)
  let years :=
    if 0 ≤ year ∧ year ≤ 9999 then padded 4 year.toNat
    else if year < 0 then "-" ++ padded 4 year.natAbs
    else "+" ++ padded 5 year.toNat
  let fraction :=
    if nano = 0 then ""
    else if nano % 1000000 = 0 then "." ++ padded 3 (nano / 1000000)
    else if nano % 1000 = 0 then "." ++ padded 6 (nano / 1000)
    else "." ++ padded 9 nano
  years ++ "-" ++ padded 2 month ++ "-" ++ padded 2 day ++ "T" ++ padded 2 (t.second / 3600) ++
    ":" ++ padded 2 (t.second / 60 % 60) ++ ":" ++ padded 2 second ++ fraction ++ "Z"

/-- The day 1970-01-01. -/
def unixDay : Int := dayOf 1970 1 1

/-- The moment some milliseconds after the beginning of 1970. -/
def ofUnixMillis (millis : Nat) : Instant :=
  let seconds := millis / 1000
  ⟨unixDay + (seconds / 86400 : Nat), seconds % 86400, millis % 1000 * 1000000⟩

end Instant

end Uplift
