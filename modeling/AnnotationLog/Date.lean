/-
Dates: days of the calendar, how a log shows them, and how they are erased again.

A log carries the day it was written, so two logs of the same annotations differ by that day
alone.  `Date.text` writes a day as `dd/mm/yyyy`, and `eraseDates` takes every piece of that
shape out of a text, whether or not the digits are a day of the calendar.
-/
import AnnotationLog.Text.Basic

namespace AnnotationLog

/-- Whether February has 29 days. -/
def isLeapYear (year : Int) : Bool :=
  year % 4 == 0 && (year % 100 != 0 || year % 400 == 0)

/-- The number of days of a month, the months counted from 1. -/
def daysInMonth (year : Int) (month : Nat) : Nat :=
  match month with
  | 2 => if isLeapYear year then 29 else 28
  | 4 | 6 | 9 | 11 => 30
  | _ => 31

/-- A day of the Gregorian calendar, extended backwards and forwards; year 0 precedes year 1. -/
structure Date where
  year : Int
  month : Nat
  day : Nat
  year_ge : -262143 ≤ year
  year_le : year ≤ 262142
  month_ge : 1 ≤ month
  month_le : month ≤ 12
  day_ge : 1 ≤ day
  day_le : day ≤ daysInMonth year month

namespace Date

/-- The day with the given numbers, if there is one. -/
def of? (year month day : Int) : Option Date :=
  if h : -262143 ≤ year ∧ year ≤ 262142 ∧ 1 ≤ month.toNat ∧ month.toNat ≤ 12 ∧
      1 ≤ day.toNat ∧ day.toNat ≤ daysInMonth year month.toNat then
    some { year, month := month.toNat, day := day.toNat, year_ge := h.1, year_le := h.2.1,
           month_ge := h.2.2.1, month_le := h.2.2.2.1, day_ge := h.2.2.2.2.1,
           day_le := h.2.2.2.2.2 }
  else none

/-- The year with at least four digits, and with a sign outside the years 0 to 9999. -/
def yearText (year : Int) : Text :=
  if year < 0 then '-' :: Text.ofNatPadded 4 year.natAbs
  else if year ≤ 9999 then Text.ofNatPadded 4 year.natAbs
  else '+' :: Text.ofNatPadded 4 year.natAbs

/-- The day as a log shows it: `dd/mm/yyyy`. -/
def text (d : Date) : Text :=
  Text.ofNatPadded 2 d.day ++ '/' :: Text.ofNatPadded 2 d.month ++ '/' :: yearText d.year

end Date

/-- The number of characters of a date. -/
def dateLength : Nat := 10

/-- Whether a text begins with two digits, two digits and four digits, slashes between them. -/
def startsWithDate : Text → Bool
  | d1 :: d2 :: s1 :: m1 :: m2 :: s2 :: y1 :: y2 :: y3 :: y4 :: _ =>
    [d1, d2, m1, m2, y1, y2, y3, y4].all Text.isDigit && s1 == '/' && s2 == '/'
  | _ => false

/-- A text without its dates.  They are found from left to right, and what closes up after one
is taken out is not read again. -/
def eraseDates : Text → Text
  | [] => []
  | c :: cs =>
    if startsWithDate (c :: cs) then eraseDates (cs.drop (dateLength - 1))
    else c :: eraseDates cs
termination_by t => t.length
decreasing_by all_goals grind

/-- Whether two logs are the same up to their dates. -/
def sameExceptDates (old new : Text) : Bool :=
  eraseDates old == eraseDates new

end AnnotationLog
