import LogViewer.Line.Anchored
import LogViewer.Line.Spaced

/-! The record of a line: its format, its attributes and the instant that dates it. -/
namespace LogViewer.Line

/-- The format of a line that follows a grammar, and its attributes. A line that follows both counts
as anchored. -/
def structure? (line : String) : Option (LineFormat × (Attribute → Option String)) :=
  match anchoredFields? line.toList with
  | some fields => some (.anchored, fields.attributes)
  | none => (spacedAttributes? line.toList).map (.spaced, ·)

/-- The record of a line that follows a grammar. It is dated by the timestamp that the line carries,
else by `fallback`; there is no record without a timestamp that names an instant. -/
def record? (line : String) (fallback : Option String) :
    Except CalendarError (Option Record) :=
  match (timestamp? line).or (fallback.filter (· != "")) with
  | none => .ok none
  | some timestamp => match structure? line with
    | none => .ok none
    | some (format, attributes) => do
      let some instant ← Timestamp.instant? timestamp | return none
      return some { timestamp, format, instant, attributes, rawMessage := some line }

end LogViewer.Line
