import LogViewer.Calendar.Date
import LogViewer.Numeric.Double
import LogViewer.Numeric.Decimal

/-! Instants, counted in milliseconds since the start of 1970 in universal time, and the written
form that names the second of an instant. -/
namespace LogViewer

/-- A shift of a point in time has left the calendar. -/
inductive CalendarError where
  | outOfRange
deriving DecidableEq, Repr

def CalendarError.message : CalendarError → String
  | .outOfRange => "date value out of range"

/-- A time of the day, to the millisecond. -/
structure TimeOfDay where
  hour : Nat
  minute : Nat
  second : Nat
  millisecond : Nat
deriving DecidableEq, Repr

namespace TimeOfDay

def isValid (t : TimeOfDay) : Bool :=
  t.hour < 24 && t.minute < 60 && t.second < 60 && t.millisecond < 1000

/-- The milliseconds since midnight. -/
def milliseconds (t : TimeOfDay) : Nat :=
  ((t.hour * 60 + t.minute) * 60 + t.second) * 1000 + t.millisecond

end TimeOfDay

/-- The count of milliseconds of a day. -/
def dayLength : Nat := 86400000

/-- The instant of a time on a day, both in universal time. -/
def instantOf (d : Date) (t : TimeOfDay) : Int :=
  (d.number * dayLength + t.milliseconds : Nat) - (Date.epoch * dayLength : Nat)

/-- Whether an instant lies on a day of the calendar. -/
def inCalendar (instant : Int) : Bool :=
  let sinceStart := instant + (Date.epoch * dayLength : Nat)
  0 ≤ sinceStart && sinceStart < (Date.count * dayLength : Nat)

/-- The instant that lies `minutes` earlier. -/
def earlier (instant : Int) (minutes : Int) : Except CalendarError Int :=
  let result := instant - minutes * 60000
  if inCalendar result then .ok result else .error .outOfRange

/-- A number with noughts in front up to a width. -/
def padded (width n : Nat) : List Char :=
  let digits := digitsOf n
  List.replicate (width - digits.length) '0' ++ digits

/-- A second of the calendar: a day and the count of its seconds before. -/
structure Second where
  date : Date
  hour : Nat
  minute : Nat
  second : Nat

/-- The second that begins a count of seconds after the start of 1970. -/
def Second.ofEpoch? (seconds : Int) : Option Second := do
  let sinceStart := seconds + (Date.epoch * 86400 : Nat)
  guard (0 ≤ sinceStart)
  let n := sinceStart.toNat
  let date ← Date.ofNumber? (n / 86400)
  return {
    date
    hour := n % 86400 / 3600
    minute := n % 3600 / 60
    second := n % 60 }

/-- The count of seconds from the start of 1970 to a second. -/
def Second.sinceEpoch (s : Second) : Int :=
  ((s.date.number * 24 + s.hour) * 60 + s.minute) * 60 + s.second - (Date.epoch * 86400 : Nat)

/-- The second that lies `minutes` earlier. -/
def Second.earlier (s : Second) (minutes : Int) : Except CalendarError Second :=
  match Second.ofEpoch? (s.sinceEpoch - minutes * 60) with
  | some second => .ok second
  | none => .error .outOfRange

/-- A second in writing: the year as it is, all else with two digits, and a mark between the parts
of the time. -/
def Second.text (s : Second) (mark : Char) : List Char :=
  digitsOf s.date.year ++ '-' :: padded 2 s.date.month ++ '-' :: padded 2 s.date.day ++
    'T' :: padded 2 s.hour ++ mark :: padded 2 s.minute ++ mark :: padded 2 s.second

end LogViewer
