import Uplift.Instant
import Uplift.Proofs.Text.Digits

/-!
# Instants, written and read

An instant comes back from its text (`Instant.parse?_text`), whatever the year is, with or without a
fraction of a second, and in a leap second too.

A day has one date (`dayOf_dateOf`). Dates repeat after four hundred years that begin in March; such
an era is cut into centuries, spans of four years, and years, the last of which may be longer by a
day (`exists_parts`).
-/

namespace Uplift.Instant

open Text (NoDigit)

/-! ## Dates -/

section Dates

variable {c q y d e era : Int}

/-- A day of an era, as the number of the century, of the span of four years in it, of the year in
that, and of the day in that. -/
structure Parts (c q y d e : Int) : Prop where
  century : 0 ≤ c ∧ c ≤ 3
  span : 0 ≤ q ∧ q ≤ 24
  year : 0 ≤ y ∧ y ≤ 3
  day : 0 ≤ d ∧ d ≤ 365
  /-- The last year of a span has a day more, but that of a century only if it is the last. -/
  leap : d = 365 → y = 3 ∧ (q = 24 → c = 3)
  total : e = 36524 * c + 1461 * q + 365 * y + d

theorem exists_parts (low : 0 ≤ e) (high : e < 146097) : ∃ c q y d, Parts c q y d e := by
  by_cases last : e = 146096
  · refine ⟨3, 24, 3, 365, ?_, ?_, ?_, ?_, ?_, ?_⟩ <;> omega
  · by_cases leap : e % 36524 % 1461 = 1460
    · refine ⟨e / 36524, e % 36524 / 1461, 3, 365, ?_, ?_, ?_, ?_, ?_, ?_⟩ <;> omega
    · refine ⟨e / 36524, e % 36524 / 1461, e % 36524 % 1461 / 365, e % 36524 % 1461 % 365,
        ?_, ?_, ?_, ?_, ?_, ?_⟩ <;> omega

/-- The year of an era is found by leaving the leap days out. -/
theorem Parts.yearOfEra (parts : Parts c q y d e) :
    (e - e / 1460 + e / 36524 - e / 146096) / 365 = 100 * c + 4 * q + y := by
  obtain ⟨century, span, year, day, leap, total⟩ := parts
  by_cases last : e = 146096
  · obtain ⟨rfl, rfl, rfl⟩ : c = 3 ∧ q = 24 ∧ y = 3 := by omega
    rw [last]
    rfl
  · have eras : e / 146096 = 0 := by omega
    have centuries : e / 36524 = c := by omega
    have spans : e / 1460 = 25 * c + q ∨ e / 1460 = 25 * c + q + 1 := by omega
    rw [eras, centuries]
    rcases spans with spans | spans
    · have early : 24 * c + q + 365 * y + d < 1460 := by omega
      omega
    · have late : 1460 ≤ 24 * c + q + 365 * y + d := by omega
      omega

theorem Parts.before (parts : Parts c q y d e) :
    365 * (100 * c + 4 * q + y) + (100 * c + 4 * q + y) / 4 - (100 * c + 4 * q + y) / 100 =
      e - d := by
  obtain ⟨century, span, year, -, -, total⟩ := parts
  have spans : (100 * c + 4 * q + y) / 4 = 25 * c + q := by omega
  have centuries : (100 * c + 4 * q + y) / 100 = c := by omega
  omega

/-- The month of a day of the year, which begins in March. -/
def monthOf (d : Nat) : Nat :=
  let m := (5 * d + 2) / 153
  if m < 10 then m + 3 else m - 9

/-- The day of its month of a day of the year. -/
def dayOfMonth (d : Nat) : Nat := d - (153 * ((5 * d + 2) / 153) + 2) / 5 + 1

theorem dateOf_eq {n : Nat} (parts : Parts c q y n e) (era : Int) :
    dateOf (era * 146097 + e) =
      (100 * c + 4 * q + y + era * 400 + (if monthOf n ≤ 2 then 1 else 0), monthOf n,
        dayOfMonth n) := by
  have bounds : 0 ≤ e ∧ e < 146097 := by
    obtain ⟨century, span, year, day, leap, total⟩ := parts
    omega
  have eras : (era * 146097 + e).fdiv 146097 = era := by
    rw [Int.fdiv_eq_ediv_of_nonneg _ (by omega)]
    omega
  have rest : era * 146097 + e - era * 146097 = e := by omega
  have days : (e - (e - n)).toNat = n := by omega
  unfold dateOf
  simp only [eras, rest, parts.yearOfEra, parts.before, days]
  rfl

theorem exists_day (n : Int) : ∃ (c q y e era : Int) (d : Nat),
    Parts c q y d e ∧ n = era * 146097 + e := by
  obtain ⟨c, q, y, d, parts⟩ := exists_parts (e := n % 146097) (by omega) (by omega)
  obtain ⟨k, rfl⟩ := Int.eq_ofNat_of_zero_le parts.day.1
  exact ⟨c, q, y, n % 146097, n / 146097, k, parts, by omega⟩

/-- A day is the day of its date. -/
theorem dayOf_dateOf (n : Int) : dayOf (dateOf n).1 (dateOf n).2.1 (dateOf n).2.2 = n := by
  obtain ⟨c, q, y, e, era, d, parts, rfl⟩ := exists_day n
  rw [dateOf_eq parts]
  have before := parts.before
  obtain ⟨century, span, year, day, -, total⟩ := parts
  have small : (5 * d + 2) / 153 ≤ 11 := by omega
  -- January and February are at the end of the year that began in March.
  have years : (if monthOf d ≤ 2 then
        100 * c + 4 * q + y + era * 400 + (if monthOf d ≤ 2 then 1 else 0) - 1
      else 100 * c + 4 * q + y + era * 400 + (if monthOf d ≤ 2 then 1 else 0)) =
        100 * c + 4 * q + y + era * 400 := by
    split <;> omega
  have month : (monthOf d + 9) % 12 = (5 * d + 2) / 153 := by
    unfold monthOf
    dsimp only
    split <;> omega
  have eras : (100 * c + 4 * q + y + era * 400).fdiv 400 = era := by
    rw [Int.fdiv_eq_ediv_of_nonneg _ (by omega)]
    omega
  have rest : 100 * c + 4 * q + y + era * 400 - era * 400 = 100 * c + 4 * q + y := by omega
  have days : (153 * ((5 * d + 2) / 153) + 2) / 5 + (dayOfMonth d - 1) = d := by
    unfold dayOfMonth
    omega
  unfold dayOf
  simp only [years, month, eras, rest, days]
  omega

theorem daysIn_congr {year year' : Int} (same : isLeap year = isLeap year') :
    daysIn year = daysIn year' := by
  funext month
  unfold daysIn
  rw [same]

/-- A day of the year is in its month, if the year has it. -/
theorem dayOfMonth_le {d : Nat} {year : Int} (small : d ≤ 365)
    (last : d = 365 → isLeap year = true) :
    (1 ≤ monthOf d ∧ monthOf d ≤ 12) ∧
      1 ≤ dayOfMonth d ∧ dayOfMonth d ≤ daysIn year (monthOf d) := by
  -- Only whether the year is a leap year matters; the year zero is one, the year one is not.
  have all : ∀ d ≤ 365, ∀ y ∈ [(0 : Int), 1], (d = 365 → isLeap y = true) →
      (1 ≤ monthOf d ∧ monthOf d ≤ 12) ∧
        1 ≤ dayOfMonth d ∧ dayOfMonth d ≤ daysIn y (monthOf d) := by
    decide +kernel
  obtain ⟨y, member, same⟩ : ∃ y ∈ [(0 : Int), 1], isLeap year = isLeap y := by
    cases isLeap year with
    | true => exact ⟨0, by decide, by decide⟩
    | false => exact ⟨1, by decide, by decide⟩
  rw [daysIn_congr same]
  exact all d small y member fun longest => same ▸ last longest

/-- The date of a day is one that the calendar has. -/
theorem dateOf_valid (n : Int) : (1 ≤ (dateOf n).2.1 ∧ (dateOf n).2.1 ≤ 12) ∧
    1 ≤ (dateOf n).2.2 ∧ (dateOf n).2.2 ≤ daysIn (dateOf n).1 (dateOf n).2.1 := by
  obtain ⟨c, q, y, e, era, d, parts, rfl⟩ := exists_day n
  rw [dateOf_eq parts]
  obtain ⟨century, span, year, day, leap, -⟩ := parts
  refine dayOfMonth_le (by omega) fun longest => ?_
  have february : monthOf d ≤ 2 := by rw [longest]; decide
  obtain ⟨rfl, century⟩ := leap (by omega)
  rw [if_pos february]
  simp only [isLeap, Bool.or_eq_true, Bool.and_eq_true, decide_eq_true_eq]
  by_cases hundredth : q = 24
  · have fourth := century hundredth
    omega
  · omega

end Dates

/-! ## Texts -/

variable {count n : Nat} {ds rest : List Char} {year : Int}

theorem toList_padded (count n : Nat) :
    (padded count n).toList = Text.padded (count - (Nat.toDigits 10 n).length) n := by
  simp [padded, Text.padded]

theorem length_padded (small : n < 10 ^ count) (filled : 0 < count) :
    (padded count n).toList.length = count := by
  rw [toList_padded, Text.length_padded small filled]

theorem isDigit_of_mem {c : Char} (member : c ∈ (padded count n).toList) : c.isDigit = true := by
  rw [toList_padded] at member
  exact Text.isDigit_of_mem_padded member

theorem number_padded (count n : Nat) : number (padded count n).toList = n := by
  rw [toList_padded]
  exact Text.spelled_padded _ n

theorem padded_ne_nil (count n : Nat) : (padded count n).toList ≠ [] := by
  rw [toList_padded]
  exact Text.padded_ne_nil

theorem takeWhile_padded (count n : Nat) :
    (padded count n).toList.takeWhile Char.isDigit = (padded count n).toList := by
  rw [List.takeWhile_eq_self_iff]
  exact fun c => isDigit_of_mem

theorem upTo2?_padded (small : n < 100) (rest : List Char) :
    upTo2? ((padded 2 n).toList ++ rest) = some (n, rest) := by
  have two : (padded 2 n).toList.length = 2 := length_padded small (by decide)
  have first : ((padded 2 n).toList ++ rest).take 2 = (padded 2 n).toList := by
    rw [List.take_append_of_le_length two.ge, List.take_of_length_le two.le]
  unfold upTo2?
  simp only [first, takeWhile_padded, List.isEmpty_iff, padded_ne_nil, if_false, number_padded,
    List.drop_left]

/-- A year, as it is written. -/
def yearText (year : Int) : String :=
  if 0 ≤ year ∧ year ≤ 9999 then padded 4 year.toNat
  else if year < 0 then "-" ++ padded 4 year.natAbs
  else "+" ++ padded 5 year.toNat

theorem year?_yearText (year : Int) (rest : List Char) :
    year? ((yearText year).toList ++ '-' :: rest) = some (year, '-' :: rest) := by
  have noDigit : NoDigit ('-' :: rest) := by simp [NoDigit]
  -- A year with a sign has any number of digits.
  have cut (count n : Nat) : ((padded count n).toList ++ '-' :: rest).takeWhile Char.isDigit =
      (padded count n).toList := Text.takeWhile_digits (fun c => isDigit_of_mem) noDigit
  unfold yearText
  by_cases usual : 0 ≤ year ∧ year ≤ 9999
  · have four : (padded 4 year.toNat).toList.length = 4 := length_padded (by omega) (by decide)
    have first : ((padded 4 year.toNat).toList ++ '-' :: rest).take 4 =
        (padded 4 year.toNat).toList := by
      rw [List.take_append_of_le_length four.ge, List.take_of_length_le four.le]
    have unsigned {c : Char} {more : List Char} (noDigit : c.isDigit = false) :
        (padded 4 year.toNat).toList ++ '-' :: rest ≠ c :: more := by
      intro split
      have head := congrArg List.head? split
      rw [List.head?_append_of_ne_nil _ (padded_ne_nil 4 _)] at head
      exact absurd (isDigit_of_mem (List.mem_of_mem_head? head)) (by simp [noDigit])
    have value : (year.toNat : Int) = year := Int.toNat_of_nonneg usual.1
    rw [if_pos usual]
    unfold year?
    dsimp only
    split
    · next split => exact absurd split (unsigned rfl)
    · next split => exact absurd split (unsigned rfl)
    · simp only [first, takeWhile_padded, List.isEmpty_iff, padded_ne_nil, if_false, number_padded,
        List.drop_left, value]
  · rw [if_neg usual]
    by_cases negative : year < 0
    · have text : ("-" ++ padded 4 year.natAbs).toList ++ '-' :: rest =
          '-' :: ((padded 4 year.natAbs).toList ++ '-' :: rest) := by simp
      rw [if_pos negative, text, year?]
      simp only [cut, List.isEmpty_iff, padded_ne_nil, if_false, number_padded, List.drop_left]
      have value : (-(year.natAbs : Int)) = year := by omega
      rw [Option.map_some, value]
    · have text : ("+" ++ padded 5 year.toNat).toList ++ '-' :: rest =
          '+' :: ((padded 5 year.toNat).toList ++ '-' :: rest) := by simp
      rw [if_neg negative, text, year?]
      simp only [cut, List.isEmpty_iff, padded_ne_nil, if_false, number_padded, List.drop_left]
      have value : (year.toNat : Int) = year := by omega
      rw [Option.map_some, value]

/-- The fraction of a second, as it is written. -/
def fractionText (nano : Nat) : String :=
  if nano = 0 then ""
  else if nano % 1000000 = 0 then "." ++ padded 3 (nano / 1000000)
  else if nano % 1000 = 0 then "." ++ padded 6 (nano / 1000)
  else "." ++ padded 9 nano

/-- A point and up to nine digits. -/
theorem fraction?_padded (small : n < 10 ^ count) (filled : 0 < count) (few : count ≤ 9)
    (ends : NoDigit rest) :
    fraction? ('.' :: ((padded count n).toList ++ rest)) =
      some (n * Nat.pow 10 (9 - count), rest) := by
  have width := length_padded small filled
  have cut : ((padded count n).toList ++ rest).takeWhile Char.isDigit = (padded count n).toList :=
    Text.takeWhile_digits (fun c => isDigit_of_mem) ends
  have nine : (padded count n).toList.take 9 = (padded count n).toList :=
    List.take_of_length_le (by omega)
  unfold fraction?
  simp only [cut, List.isEmpty_iff, padded_ne_nil, if_false, nine, number_padded, List.drop_left]
  rw [width]

theorem fraction?_fractionText {nano : Nat} (small : nano < 1000000000) :
    fraction? ((fractionText nano).toList ++ ['Z']) = some (nano, ['Z']) := by
  have pointed (count n : Nat) : ("." ++ padded count n).toList ++ ['Z'] =
      '.' :: ((padded count n).toList ++ ['Z']) := by simp
  have ends : NoDigit ['Z'] := by simp [NoDigit]
  unfold fractionText
  split
  · next none => rw [none]; rfl
  split
  · next millis =>
    have whole : nano / 1000000 * Nat.pow 10 (9 - 3) = nano := by
      show nano / 1000000 * 1000000 = nano
      omega
    rw [pointed, fraction?_padded (by omega) (by decide) (by decide) ends, whole]
  split
  · next micros =>
    have whole : nano / 1000 * Nat.pow 10 (9 - 6) = nano := by
      show nano / 1000 * 1000 = nano
      omega
    rw [pointed, fraction?_padded (by omega) (by decide) (by decide) ends, whole]
  · rw [pointed, fraction?_padded (by omega) (by decide) (by decide) ends]
    exact congrArg (fun n => some (n, ['Z'])) (Nat.mul_one nano)

/-- An instant that a clock can show: a second of the day, and in it a nanosecond, or one of the
leap second at the end of a minute. -/
structure Valid (t : Instant) : Prop where
  second : t.second < 86400
  nano : t.nano < 1000000000 ∨ t.second % 60 = 59 ∧ t.nano < 2000000000

/-- The second of the minute and the nanosecond that are written. -/
def clock (t : Instant) : Nat × Nat :=
  if t.nano ≥ 1000000000 then (t.second % 60 + 1, t.nano - 1000000000) else (t.second % 60, t.nano)

theorem toList_text (t : Instant) : t.text.toList =
    (yearText (dateOf t.day).1).toList ++ '-' :: ((padded 2 (dateOf t.day).2.1).toList ++
      '-' :: ((padded 2 (dateOf t.day).2.2).toList ++
        'T' :: ((padded 2 (t.second / 3600)).toList ++
          ':' :: ((padded 2 (t.second / 60 % 60)).toList ++
            ':' :: ((padded 2 t.clock.1).toList ++
              ((fractionText t.clock.2).toList ++ ['Z'])))))) := by
  have text : t.text = yearText (dateOf t.day).1 ++ "-" ++ padded 2 (dateOf t.day).2.1 ++ "-" ++
      padded 2 (dateOf t.day).2.2 ++ "T" ++ padded 2 (t.second / 3600) ++ ":" ++
      padded 2 (t.second / 60 % 60) ++ ":" ++ padded 2 t.clock.1 ++ fractionText t.clock.2 ++
      "Z" := by
    unfold Instant.text yearText fractionText clock
    by_cases leap : t.nano ≥ 1000000000
    · simp only [if_pos leap]
    · simp only [if_neg leap]
  rw [text]
  simp

theorem clock_small {t : Instant} (valid : t.Valid) :
    t.clock.1 ≤ 60 ∧ t.clock.2 < 1000000000 := by
  have nano := valid.nano
  unfold clock
  split
  · exact ⟨by dsimp only; omega, by dsimp only; omega⟩
  · exact ⟨by dsimp only; omega, by dsimp only; omega⟩

/-- The clock and the nanosecond can be told from what is written of them. -/
theorem clock_restored {t : Instant} (valid : t.Valid) :
    t.second / 3600 * 3600 + t.second / 60 % 60 * 60 +
        (if t.clock.1 = 60 then 59 else t.clock.1) = t.second ∧
      (if t.clock.1 = 60 then t.clock.2 + 1000000000 else t.clock.2) = t.nano := by
  have nano := valid.nano
  unfold clock
  by_cases leap : t.nano ≥ 1000000000
  · have minute : t.second % 60 = 59 := by omega
    rw [if_pos leap]
    dsimp only
    rw [minute, if_pos rfl, if_pos rfl]
    omega
  · have minute : t.second % 60 ≠ 60 := by omega
    simp only [if_neg leap, if_neg minute]
    exact ⟨by omega, trivial⟩

theorem daysIn_le (year : Int) (month : Nat) : daysIn year month ≤ 31 := by
  unfold daysIn
  split
  · split <;> decide
  all_goals decide

/-- A text in UTC whose parts are read one after the other, with a date that there is. -/
theorem parse?_parts {text : String} {year : Int} {month day hour minute second nano : Nat}
    {afterYear afterMonth afterDay afterHour afterMinute afterSecond : List Char}
    (yearRead : year? text.toList = some (year, '-' :: afterYear))
    (monthRead : upTo2? afterYear = some (month, '-' :: afterMonth))
    (dayRead : upTo2? afterMonth = some (day, 'T' :: afterDay))
    (hourRead : upTo2? afterDay = some (hour, ':' :: afterHour))
    (minuteRead : upTo2? afterHour = some (minute, ':' :: afterMinute))
    (secondRead : upTo2? afterMinute = some (second, afterSecond))
    (nanoRead : fraction? afterSecond = some (nano, ['Z']))
    (date : (1 ≤ month ∧ month ≤ 12) ∧ 1 ≤ day ∧ day ≤ daysIn year month)
    (time : hour ≤ 23 ∧ minute ≤ 59 ∧ second ≤ 60) :
    parse? text =
      let seconds := hour * 3600 + minute * 60 + if second = 60 then 59 else second
      some ⟨dayOf year month day, seconds, if second = 60 then nano + 1000000000 else nano⟩ := by
  have zone : offset? ['Z'] = some 0 := rfl
  have noDate : ¬ (month = 0 ∨ 12 < month ∨ day = 0 ∨ daysIn year month < day) := by omega
  have noTime : ¬ (23 < hour ∨ 59 < minute ∨ 60 < second) := by omega
  unfold parse?
  refine Option.bind_eq_some_iff.mpr ⟨_, yearRead, ?_⟩
  refine Option.bind_eq_some_iff.mpr ⟨afterYear, rfl, ?_⟩
  refine Option.bind_eq_some_iff.mpr ⟨_, monthRead, ?_⟩
  refine Option.bind_eq_some_iff.mpr ⟨afterMonth, rfl, ?_⟩
  refine Option.bind_eq_some_iff.mpr ⟨_, dayRead, ?_⟩
  refine Option.bind_eq_some_iff.mpr ⟨_, hourRead, ?_⟩
  refine Option.bind_eq_some_iff.mpr ⟨afterHour, rfl, ?_⟩
  refine Option.bind_eq_some_iff.mpr ⟨_, minuteRead, ?_⟩
  refine Option.bind_eq_some_iff.mpr ⟨afterMinute, rfl, ?_⟩
  refine Option.bind_eq_some_iff.mpr ⟨_, secondRead, ?_⟩
  refine Option.bind_eq_some_iff.mpr ⟨_, nanoRead, ?_⟩
  refine Option.bind_eq_some_iff.mpr ⟨0, zone, ?_⟩
  dsimp only
  rw [if_neg (by simp; omega), if_neg (by simp; omega), if_neg (by decide)]
  have inDay : hour * 3600 + minute * 60 + (if second = 60 then 59 else second) < 86400 := by
    split <;> omega
  generalize hour * 3600 + minute * 60 + (if second = 60 then 59 else second) = clock at inDay
  have days : ((clock : Int) - 0).fdiv 86400 = 0 := by
    rw [Int.fdiv_eq_ediv_of_nonneg _ (by omega)]
    omega
  have seconds : (((clock : Int) - 0).fmod 86400).toNat = clock := by
    rw [Int.fmod_eq_emod_of_nonneg _ (by omega)]
    omega
  rw [days, seconds, Int.add_zero]

/-- **An instant comes back from its text.** -/
theorem parse?_text {t : Instant} (valid : t.Valid) : parse? t.text = some t := by
  have inDay := valid.second
  obtain ⟨secondSmall, nanoSmall⟩ := clock_small valid
  have date := dateOf_valid t.day
  have read := year?_yearText (dateOf t.day).1 ((padded 2 (dateOf t.day).2.1).toList ++
      '-' :: ((padded 2 (dateOf t.day).2.2).toList ++
        'T' :: ((padded 2 (t.second / 3600)).toList ++
          ':' :: ((padded 2 (t.second / 60 % 60)).toList ++
            ':' :: ((padded 2 t.clock.1).toList ++
              ((fractionText t.clock.2).toList ++ ['Z']))))))
  rw [← toList_text] at read
  have monthSmall : (dateOf t.day).2.1 < 100 := by omega
  have daySmall : (dateOf t.day).2.2 < 100 := by
    have := daysIn_le (dateOf t.day).1 (dateOf t.day).2.1
    omega
  have hour : t.second / 3600 ≤ 23 := by omega
  have minute : t.second / 60 % 60 ≤ 59 := by omega
  have parsed := parse?_parts read (upTo2?_padded monthSmall _) (upTo2?_padded daySmall _)
    (upTo2?_padded (by omega) _) (upTo2?_padded (by omega) _) (upTo2?_padded (by omega) _)
    (fraction?_fractionText nanoSmall) date ⟨hour, minute, secondSmall⟩
  obtain ⟨second, nano⟩ := clock_restored valid
  dsimp only at parsed
  rw [parsed, dayOf_dateOf, second, nano]

end Uplift.Instant
