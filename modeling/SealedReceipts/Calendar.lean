import SealedReceipts.Digits

/-!
# Calendar

Moments are seconds since 1970-01-01T00:00:00Z with nanoseconds behind them; dates are those of the
Gregorian calendar, carried on before its introduction and with a year zero.

* `Date.ofDays` and `Date.toDays` count days from 1970-01-01, in cycles of 400 years that begin on
  the first of March, so that the leap day is the last of its year;
* `Date.compact` is the eight-digit form, `Timestamp.rfc3339` and `Timestamp.spaced` the two
  written forms of a moment.
-/

namespace SealedReceipts

open Digits (padded)

/-! ## Dates -/

structure Date where
  year : Int
  month : Nat
  day : Nat
  deriving DecidableEq, Repr

namespace Date

/-- Every fourth year, but of the full centuries only every fourth. -/
def isLeapYear (year : Int) : Bool :=
  year % 4 == 0 && (year % 100 != 0 || year % 400 == 0)

def monthLength (year : Int) (month : Nat) : Nat :=
  if month = 2 then
    if isLeapYear year then 29 else 28
  else if month = 4 ∨ month = 6 ∨ month = 9 ∨ month = 11 then 30
  else 31

def IsValid (d : Date) : Prop :=
  1 ≤ d.month ∧ d.month ≤ 12 ∧ 1 ≤ d.day ∧ d.day ≤ monthLength d.year d.month

instance (d : Date) : Decidable d.IsValid := by unfold IsValid; infer_instance

/-- Days in a cycle of 400 years. -/
def cycleDays : Nat := 146097

/-- The days from the first of March of year zero to 1970-01-01. -/
def epochDays : Nat := 719468

/-- The day that lies `days` after 1970-01-01. Within a cycle the year follows from the day by
taking the leap days out; within a year, five months from March on have 153 days. -/
def ofDays (days : Int) : Date :=
  let shifted := days + epochDays
  let cycle := shifted / cycleDays
  let day := (shifted % cycleDays).toNat
  let year := (day - day / 1460 + day / 36524 - day / 146096) / 365
  let dayOfYear := day - (365 * year + year / 4 - year / 100)
  let month := (5 * dayOfYear + 2) / 153
  { year := year + cycle * 400 + if month < 10 then 0 else 1
    month := if month < 10 then month + 3 else month - 9
    day := dayOfYear - (153 * month + 2) / 5 + 1 }

/-- The days from 1970-01-01 to a date. -/
def toDays (d : Date) : Int :=
  let year := if d.month ≤ 2 then d.year - 1 else d.year
  let cycle := year / 400
  let yearOfCycle := year % 400
  let month : Int := if d.month ≤ 2 then d.month + 9 else d.month - 3
  let dayOfYear := (153 * month + 2) / 5 + d.day - 1
  cycle * cycleDays + (yearOfCycle * 365 + yearOfCycle / 4 - yearOfCycle / 100 + dayOfYear)
    - epochDays

/-- A year has four digits; one outside 0 to 9999 a sign as well. -/
def yearText (year : Int) : String :=
  if 0 ≤ year ∧ year ≤ 9999 then padded 4 year.toNat
  else (if year < 0 then "-" else "+") ++ padded 4 year.natAbs

/-- Year, month and day without separators. -/
def compact (d : Date) : String :=
  yearText d.year ++ padded 2 d.month ++ padded 2 d.day

/-- Year, month and day with hyphens. -/
def text (d : Date) : String :=
  yearText d.year ++ "-" ++ padded 2 d.month ++ "-" ++ padded 2 d.day

/-- The date of eight digits: four of the year, two of the month, two of the day. -/
def ofDigits (digits : List Nat) : Date :=
  { year := Digits.decimal (digits.take 4)
    month := Digits.decimal ((digits.drop 4).take 2)
    day := Digits.decimal (digits.drop 6) }

end Date

/-! ## Moments -/

/-- A moment of universal time. -/
structure Timestamp where
  seconds : Int
  nanoseconds : Nat
  deriving DecidableEq, Repr

namespace Timestamp

def daySeconds : Nat := 86400

/-- The last second whose date is supported, the end of the year 262142. -/
def maxSeconds : Nat := 8210266876799

def date (t : Timestamp) : Date :=
  Date.ofDays (t.seconds / daySeconds)

/-- The moment at the beginning of its second. -/
def truncated (t : Timestamp) : Timestamp :=
  { t with nanoseconds := 0 }

/-- Hours, minutes and seconds of the day. -/
def clock (t : Timestamp) : String :=
  let second := (t.seconds % daySeconds).toNat
  padded 2 (second / 3600) ++ ":" ++ padded 2 (second / 60 % 60) ++ ":" ++ padded 2 (second % 60)

/-- The part of the second behind a point, in thousandths, millionths or billionths: the coarsest of
them that is exact. -/
def fraction (t : Timestamp) : String :=
  if t.nanoseconds = 0 then ""
  else if t.nanoseconds % 1000000 = 0 then "." ++ padded 3 (t.nanoseconds / 1000000)
  else if t.nanoseconds % 1000 = 0 then "." ++ padded 6 (t.nanoseconds / 1000)
  else "." ++ padded 9 t.nanoseconds

/-- The RFC 3339 form in universal time. -/
def rfc3339 (t : Timestamp) : String :=
  t.date.text ++ "T" ++ t.clock ++ t.fraction ++ "Z"

/-- Date, time and zone with blanks between them. -/
def spaced (t : Timestamp) : String :=
  t.date.text ++ " " ++ t.clock ++ t.fraction ++ " UTC"

end Timestamp

end SealedReceipts
