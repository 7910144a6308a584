import Mathlib.Algebra.Order.Field.Rat
import Mathlib.Data.List.Basic
import Mathlib.Data.Nat.Digits.Defs
import Arbiter.Framework.Instances

/-! # Dates in ISO 8601

  `datetime.fromisoformat`: a calendar date or a week date, then a time of the day with or
  without an offset from UTC. A date is its number in the proleptic Gregorian calendar,
  where the first of January of the year 1 is day 1.

  ## Contents

  - `ordinal`, `of_week`: the day of a calendar date, of a week date.
  - `Stamp`: what a clock shows, and how far it is from UTC; `instant`: the moment.
  - `fromisoformat`: the stamp a text stands for.
-/

namespace IsoDate

/-! ### The calendar -/

def is_leap (year : ℕ) : Bool := year % 4 = 0 && (year % 100 ≠ 0 || year % 400 = 0)

def days_in_month (year month : ℕ) : ℕ :=
  if month = 2 then (if is_leap year then 29 else 28)
  else if month ∈ [4, 6, 9, 11] then 30 else 31

/-- The days before a year. -/
def days_before_year (year : ℕ) : ℕ :=
  let y := year - 1
  y * 365 + y / 4 - y / 100 + y / 400

/-- The days of a year before a month. -/
def days_before_month (year month : ℕ) : ℕ :=
  ((List.range' 1 (month - 1)).map (days_in_month year)).sum

/-- The last day of the year 9999. -/
def max_ordinal : ℕ := 3652059

/-- The day of a calendar date, where there is such a date. -/
def ordinal (year month day : ℕ) : Option ℕ :=
  if 1 ≤ year ∧ year ≤ 9999 ∧ 1 ≤ month ∧ month ≤ 12 ∧ 1 ≤ day ∧ day ≤ days_in_month year month
  then some (days_before_year year + days_before_month year month + day)
  else none

/-- The weekday of the first of January; a Monday is 0. -/
def first_weekday (year : ℕ) : ℕ := days_before_year year % 7

/-- The Monday of the week with the first Thursday of the year. -/
def week_one_monday (year : ℕ) : ℕ :=
  let first_day := days_before_year year + 1
  first_day - first_weekday year + if 3 < first_weekday year then 7 else 0

/-- The year has 53 weeks. -/
def is_long (year : ℕ) : Bool :=
  first_weekday year = 3 || (first_weekday year = 2 && is_leap year)

/-- The day of a week date. -/
def of_week (year week day : ℕ) : Option ℕ :=
  if 1 ≤ year ∧ 1 ≤ week ∧ (week ≤ 52 ∨ week = 53 ∧ is_long year) ∧ 1 ≤ day ∧ day ≤ 7 then
    let found := week_one_monday year + (week - 1) * 7 + (day - 1)
    if found ≤ max_ordinal then some found else none
  else none

/-! ### Stamps -/

/-- What a clock shows, in seconds, and how far ahead of UTC it is, if that is known. -/
structure Stamp where
  wall : ℚ
  offset : Option ℚ := none
  deriving DecidableEq

/-- The moment. A clock of which nothing is known shows UTC. -/
def Stamp.instant (s : Stamp) : ℚ := s.wall - s.offset.getD 0

/-! ### Reading -/

/-- `n` digits, and what follows. -/
def digits : ℕ → List Char → Option (ℕ × List Char)
  | 0, l => some (0, l)
  | _ + 1, [] => none
  | n + 1, c :: l =>
      if c.isDigit then
        (digits n l).map fun (value, rest) => ((c.toNat - '0'.toNat) * 10 ^ n + value, rest)
      else none

/-- What follows a character, where it has to stand there. -/
def skip (needed : Bool) (c : Char) : List Char → Option (List Char)
  | [] => if needed then none else some []
  | d :: l => if needed then (if d = c then some l else none) else some (d :: l)

/-- Where the date ends and the time is set off. -/
def separator (l : List Char) : Option ℕ :=
  if l.length < 7 then none
  else if l.length = 7 then some 7
  else if l[4]? = some '-' then
    if l[5]? = some 'W' then
      if l[8]? = some '-' then
        if l.length = 9 then none
        else if (l[10]?).any Char.isDigit then some 8 else some 10
      else some 8
    else some 10
  else if l[4]? = some 'W' then
    -- the digits of a time come in pairs
    let last := 7 + ((l.drop 7).takeWhile Char.isDigit).length
    if last < 9 then some last else if last % 2 = 0 then some 7 else some 8
  else some 8

/-- A date. -/
def read_date (l : List Char) : Option ℕ := do
  let (year, l) ← digits 4 l
  -- all dashes, or none
  let dashed := l.head? = some '-'
  let l ← skip dashed '-' l
  match l with
  | 'W' :: l =>
      let (week, l) ← digits 2 l
      if l = [] then of_week year week 1
      else
        let l ← skip dashed '-' l
        let (day, l) ← digits 1 l
        if l = [] then of_week year week day else none
  | l =>
      let (month, l) ← digits 2 l
      let l ← skip dashed '-' l
      let (day, l) ← digits 2 l
      if l = [] then ordinal year month day else none

/-- A part of a second; what is beyond the microseconds is cut off. -/
def read_fraction (l : List Char) : Option ℚ :=
  if l ≠ [] ∧ l.all Char.isDigit then
    let micros := l.take 6
    some (Nat.ofDigitChars 10 micros 0 / 10 ^ micros.length)
  else none

/-- A time of the day: the hour, the minute and the seconds. -/
def read_time (l : List Char) : Option (ℕ × ℕ × ℚ) := do
  let (hour, l) ← digits 2 l
  if l = [] then return (hour, 0, 0)
  let colons := l.head? = some ':'
  let (minute, l) ← digits 2 (← skip colons ':' l)
  if l = [] then return (hour, minute, 0)
  let (second, l) ← digits 2 (← skip colons ':' l)
  match l with
  | [] => return (hour, minute, second)
  | c :: l =>
      if c = '.' ∨ c = ',' then
        let part ← read_fraction l
        return (hour, minute, second + part)
      else none

/-- An offset from UTC, after its sign. -/
def read_offset (sign : ℚ) (l : List Char) : Option ℚ := do
  let (hours, minutes, seconds) ← read_time l
  let offset := hours * 3600 + minutes * 60 + seconds
  if offset < 86400 then return sign * offset else none

/-- `Z`, or a signed offset. -/
def read_zone : List Char → Option ℚ
  | ['Z'] => some 0
  | '+' :: l => read_offset 1 l
  | '-' :: l => read_offset (-1) l
  | _ => none

/-- The time of a clock on a day, and its zone. -/
def read_clock (day : ℕ) (l : List Char) : Option Stamp := do
  let (time, zone) := l.span fun c => c ≠ '+' && c ≠ '-' && c ≠ 'Z'
  let (hour, minute, second) ← read_time time
  if hour ≤ 23 ∧ minute ≤ 59 ∧ second < 60 then
    let wall : ℚ := day * 86400 + hour * 3600 + minute * 60 + second
    if zone = [] then return ⟨wall, none⟩
    else
      let offset ← read_zone zone
      return ⟨wall, some offset⟩
  else none

/-- `datetime.fromisoformat`, where it does not raise. -/
def fromisoformat (s : String) : Option Stamp := do
  let l := s.toList
  let place ← separator l
  let day ← read_date (l.take place)
  match l.drop place with
  | [] => return ⟨day * 86400, none⟩
  -- any character sets the time off
  | _ :: time => read_clock day time

example : (fromisoformat "2026-05-01T23:30:00-05:00").map Stamp.instant =
    (fromisoformat "20260502T0430Z").map Stamp.instant := by decide +kernel

example : (fromisoformat "2026-W18-5").map Stamp.wall =
    (fromisoformat "2026-05-01").map Stamp.wall := by decide +kernel

end IsoDate
