import LogViewer.Corpus.Basic
import LogViewer.Calendar.Timestamp
import LogViewer.Query.Evaluate
import LogViewer.Record.Text

/-! Filters: a range of instants and a query. A filter always looks at the whole corpus, and what it
lets through is given by the records' places in the corpus. Whether a query has words is found out
only when a record is put to it. -/
namespace LogViewer

/-- An end of a range: a timestamp and the instant that it names. -/
structure Bound where
  text : String
  instant : Int
deriving DecidableEq, Repr

/-- A range of instants that includes its ends, either of which may be open. -/
structure TimeRange where
  start : Option Bound := none
  finish : Option Bound := none
deriving DecidableEq, Repr

/-- Why there is no range with some ends. -/
inductive RangeError where
  /-- The end names no instant. -/
  | invalidBound (text : String)
  | calendar (error : CalendarError)
deriving DecidableEq, Repr

def RangeError.message : RangeError → String
  | invalidBound text => "Invalid time bound: " ++ String.ofList (Text.quoted text.toList)
  | calendar error => error.message

/-- The end of a range that a text gives; an empty text leaves the range open. -/
def Bound.ofText? : Option String → Except RangeError (Option Bound)
  | none | some "" => .ok none
  | some text => do
    let some instant ← (Timestamp.instant? text).mapError .calendar
      | throw (.invalidBound text)
    return some { text, instant }

namespace TimeRange

def ofTexts? (start finish : Option String) : Except RangeError TimeRange := do
  return { start := ← Bound.ofText? start, finish := ← Bound.ofText? finish }

/-- Whether a range has no end on either side. -/
def isOpen (range : TimeRange) : Bool := range.start.isNone && range.finish.isNone

/-- Whether an instant lies in a range. -/
def contains (range : TimeRange) (instant : Int) : Bool :=
  range.start.all (·.instant ≤ instant) && range.finish.all (instant ≤ ·.instant)

end TimeRange

/-- A range of instants and a query, either of which may be missing. -/
structure Filter where
  range : Option TimeRange := none
  query : String := ""
deriving DecidableEq, Repr

/-- Whether a record satisfies a query. -/
def Record.satisfies (r : Record) (query : String) : Except OverlongNumber Bool :=
  Query.evaluate query r.searchable

/-- The places of the records that pass a test; where the test fails there are none. -/
def placesOf {ε : Type} (records : List Record) (test : Record → Except ε Bool) :
    Except ε (List Nat) :=
  (·.map (·.2)) <$> records.zipIdx.filterM fun (r, _) => test r

namespace Filter

/-- Whether a filter lets every record through. -/
def isEmpty (f : Filter) : Bool := f.range.all (·.isOpen) && Query.isBlank f.query

/-- Whether a filter lets a record through. A query that says nothing lets every record through, and
a record outside the range is not put to the query. -/
def passes (f : Filter) (r : Record) : Except OverlongNumber Bool :=
  if f.range.all (·.contains r.instant) then
    if Query.isBlank f.query then .ok true else r.satisfies f.query
  else .ok false

end Filter

/-- The places of the records that a filter lets through. -/
def Corpus.filter (c : Corpus) (f : Filter) : Except OverlongNumber (List Nat) :=
  placesOf c.records f.passes

/-- The places of all records. -/
def Corpus.everything (c : Corpus) : List Nat := List.range c.size

end LogViewer
