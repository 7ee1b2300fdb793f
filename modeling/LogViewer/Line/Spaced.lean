import LogViewer.Line.Timestamp
import LogViewer.Record.Basic

/-! Spaced lines: ten fields or more, parted by a bar between two spaces. What follows the tenth
field is the data, up to the last word `at` in it, which introduces the time. -/
namespace LogViewer.Line

open Text

/-- The mark between two fields. -/
def spacedBar : List Char := [' ', '|', ' ']

/-- The data of a spaced line, from what follows its tag. -/
def dataBeforeTime (remainder : List Char) : List Char :=
  match lastOccurrence? " at ".toList remainder with
  | some (n + 1) => trim (remainder.take (n + 1))
  | _ => remainder

/-- The attributes of a spaced line. -/
def spacedAttributes? (line : List Char) : Option (Attribute → Option String) :=
  match splitAtEach ' ' ['|', ' '] line with
  | lineNumber :: requestId :: traceId :: spanId :: url :: podName :: service :: level :: type ::
      tag :: rest => some fun
    | .lineNumber => some (String.ofList lineNumber)
    | .requestId => some (String.ofList requestId)
    | .traceId => some (String.ofList traceId)
    | .spanId => some (String.ofList spanId)
    | .url => some (String.ofList url)
    | .podName => some (String.ofList podName)
    | .service => some (String.ofList service)
    | .level => some (String.ofList level)
    | .type => some (String.ofList type)
    | .tag => some (String.ofList tag)
    | .data => some (String.ofList (dataBeforeTime (join spacedBar rest)))
    | _ => none
  | _ => none

end LogViewer.Line
