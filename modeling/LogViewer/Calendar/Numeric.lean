import LogViewer.Calendar.Instant
import LogViewer.Json.Basic

/-! Timestamps that are numbers: milliseconds since the start of 1970. The count is first turned
into seconds, in floating point, and those into microseconds, so that a large count may lose its
last digits before it is written. -/
namespace LogViewer.Timestamp

/-- A whole number nearest to `r`, the even one of two. -/
def roundEven (r : Rat) : Int :=
  let magnitude : Int := roundQuotient r.num.natAbs r.den
  if r < 0 then -magnitude else magnitude

/-- The part of `r` without its fraction. -/
def truncated (r : Rat) : Int := Int.tdiv r.num r.den

/-- The whole seconds and the microseconds beyond them, below a million, of a count of seconds. -/
def secondsAndMicroseconds (r : Rat) : Int × Nat :=
  let whole := truncated r
  let scaled := ((Double.ofRat (r - whole) false) * (Double.ofRat 1000000 false)).toRat?.getD 0
  let micros := roundEven scaled
  if 1000000 ≤ micros then (whole + 1, (micros - 1000000).toNat)
  else if micros < 0 then (whole - 1, (micros + 1000000).toNat)
  else (whole, micros.toNat)

/-- The timestamp of a count of seconds, none outside the calendar. -/
def ofSeconds? (seconds : Double) : Option String := do
  let r ← seconds.toRat?
  let (whole, micros) := secondsAndMicroseconds r
  let second ← Second.ofEpoch? whole
  return String.ofList (second.text ':' ++ '.' :: padded 3 (micros / 1000) ++ ['Z'])

/-- The timestamp that a value of a document stands for: a text as it is, a number by its
milliseconds, and nothing else. -/
def ofValue? : Json → Option String
  | .int n => ofSeconds? (.ofRat ((n : Rat) / 1000) false)
  | .double x => ofSeconds? (x / .ofRat 1000 false)
  | .string s => some s
  | _ => none

end LogViewer.Timestamp
