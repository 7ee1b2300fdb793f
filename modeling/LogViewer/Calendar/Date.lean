/-! Days of the calendar, from the first day of year 1 to the last one of year 9999. Days are also
numbered through, the first one being day nought. -/
namespace LogViewer

def isLeapYear (year : Nat) : Bool := year % 4 == 0 && (year % 100 != 0 || year % 400 == 0)

/-- The lengths of the twelve months. -/
def monthLengths (leap : Bool) : List Nat :=
  [31, if leap then 29 else 28, 31, 30, 31, 30, 31, 31, 30, 31, 30, 31]

/-- The count of days of a month, none if there is no such month. -/
def daysInMonth (year month : Nat) : Nat :=
  if month = 0 then 0 else (monthLengths (isLeapYear year))[month - 1]?.getD 0

/-- A day of the calendar. -/
structure Date where
  year : Nat
  month : Nat
  day : Nat
  year_mem : 1 ≤ year ∧ year ≤ 9999
  day_mem : 1 ≤ day ∧ day ≤ daysInMonth year month
deriving DecidableEq, Repr

namespace Date

def ofParts? (year month day : Nat) : Option Date :=
  if h : (1 ≤ year ∧ year ≤ 9999) ∧ 1 ≤ day ∧ day ≤ daysInMonth year month then
    some { year, month, day, year_mem := h.1, day_mem := h.2 }
  else none

/-- The count of days before the first one of a year. -/
def daysBefore (year : Nat) : Nat :=
  let past := year - 1
  365 * past + past / 4 - past / 100 + past / 400

/-- The number of a day. -/
def number (d : Date) : Nat :=
  daysBefore d.year +
    ((monthLengths (isLeapYear d.year)).take (d.month - 1)).foldr (· + ·) 0 + (d.day - 1)

/-- The count of all days. -/
def count : Nat := 3652059

/-- The number of the first day of 1970. -/
def epoch : Nat := 719162

/-- The year that holds a numbered day, and the count of that year's days before it. -/
def yearOf (n : Nat) : Nat × Nat :=
  let era := n / 146097
  let n := n % 146097
  let century := min (n / 36524) 3
  let n := n - 36524 * century
  let leapSpan := n / 1461
  let n := n % 1461
  let year := min (n / 365) 3
  (400 * era + 100 * century + 4 * leapSpan + year + 1, n - 365 * year)

/-- The month and the day of the month of the day that `n` days of the months to come precede. -/
def monthOf (month n : Nat) : List Nat → Nat × Nat
  | [] => (month, n + 1)
  | length :: lengths =>
    if n < length then (month, n + 1) else monthOf (month + 1) (n - length) lengths

/-- The day with a number. -/
def ofNumber? (n : Nat) : Option Date :=
  let (year, dayOfYear) := yearOf n
  let (month, day) := monthOf 1 dayOfYear (monthLengths (isLeapYear year))
  ofParts? year month day

end Date

end LogViewer
