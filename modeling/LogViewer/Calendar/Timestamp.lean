import LogViewer.Calendar.Instant
import LogViewer.Text.Blank
import LogViewer.Text.Digit

/-! Reading timestamps: a date, a time of the day on demand, a fraction of the second on demand and
a zone on demand. Digits may be of any script and letters of either case. A timestamp without a zone
is in universal time, and what its fraction has beyond milliseconds is dropped. -/
namespace LogViewer.Timestamp

open Text

/-- The text that follows a front of the given shape, in which the letter `d` stands for a digit and
any other character for itself. -/
def afterShape? : List Char → List Char → Option (List Char)
  | [], s => some s
  | _ :: _, [] => none
  | p :: shape, c :: s =>
    if (if p = 'd' then isDigit c else p == c) then afterShape? shape s else none

/-- The number that the first `n` characters denote, all of them digits, and the text after them. -/
def digits? (n : Nat) (s : List Char) : Option (Nat × List Char) :=
  let front := s.take n
  if front.length = n ∧ front.all isDigit then some (numberOf front, s.drop n) else none

/-- The text after a character that must stand in front. -/
def after? (c : Char) : List Char → Option (List Char)
  | [] => none
  | d :: s => if d = c then some s else none

/-- The milliseconds that the digits of a fraction denote. -/
def millisecondsOf (fraction : List Char) : Nat :=
  let front := fraction.take 3
  numberOf front * Nat.pow 10 (3 - front.length)

/-- Reads the fraction of a second, nought if there is none. -/
def takeFraction (s : List Char) : Nat × List Char :=
  match s with
  | '.' :: t =>
    let fraction := t.takeWhile isDigit
    if fraction.isEmpty then (0, s) else (millisecondsOf fraction, t.dropWhile isDigit)
  | _ => (0, s)

/-- Reads the seconds and their fraction, nought if there are none. -/
def takeSeconds (s : List Char) : Nat × Nat × List Char :=
  match after? ':' s >>= digits? 2 with
  | some (second, t) =>
    let (millisecond, t) := takeFraction t
    (second, millisecond, t)
  | none => (0, 0, s)

/-- Reads a time of the day in front of which a letter or a space stands. -/
def clock? : List Char → Option (TimeOfDay × List Char)
  | [] => none
  | mark :: s => do
    guard (mark = 'T' ∨ mark = 't' ∨ mark = ' ')
    let (hour, s) ← digits? 2 s
    let (minute, s) ← after? ':' s >>= digits? 2
    let (second, millisecond, s) := takeSeconds s
    return ({ hour, minute, second, millisecond }, s)

/-- Reads a zone as the minutes by which it is ahead of universal time; nothing follows it. -/
def zone? : List Char → Option Int
  | [] => some 0
  | ['Z'] | ['z'] => some 0
  | sign :: s => do
    guard (sign = '+' ∨ sign = '-')
    let (hours, s) ← digits? 2 s
    let (minutes, s) ← digits? 2 ((after? ':' s).getD s)
    guard s.isEmpty
    let ahead : Int := hours * 60 + minutes
    return if sign = '-' then -ahead else ahead

/-- What a timestamp says before it is known to name a day. -/
structure Parts where
  year : Nat
  month : Nat
  day : Nat
  time : TimeOfDay
  /-- The minutes by which the zone is ahead of universal time. -/
  ahead : Int

/-- Reads the parts of a timestamp that has no blanks at its ends. -/
def parts? (s : List Char) : Option Parts := do
  let (year, s) ← digits? 4 s
  let (month, s) ← after? '-' s >>= digits? 2
  let (day, s) ← after? '-' s >>= digits? 2
  let (time, s) := (clock? s).getD (⟨0, 0, 0, 0⟩, s)
  let ahead ← zone? (trimStart s)
  return { year, month, day, time, ahead }

/-- The instant that a timestamp names, none if it names none. Only a zone can lead out of the
calendar. -/
def instant? (timestamp : String) : Except CalendarError (Option Int) :=
  match parts? (trim timestamp.toList) with
  | none => .ok none
  | some parts => match Date.ofParts? parts.year parts.month parts.day with
    | none => .ok none
    | some date =>
      if parts.time.isValid then some <$> earlier (instantOf date parts.time) parts.ahead
      else .ok none

end LogViewer.Timestamp
