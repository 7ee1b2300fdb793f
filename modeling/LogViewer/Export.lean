import LogViewer.Calendar.Instant
import LogViewer.Json.Printer
import LogViewer.Record.Basic

/-! Exports: the text of a file that holds some records, and the file's name, which tells when it
was written. -/
namespace LogViewer.Export

/-- The text of some records, none if one of them contains itself. -/
def text? (records : List Record) : Option String :=
  String.ofList <$> (Json.array (records.map Record.toJson)).indented?

/-- The message about records of which one contains itself. -/
def loopMessage : String := "Circular reference detected"

/-- The name of a file that is written in a second of universal time. -/
def fileName (s : Second) : String :=
  "logs-export-" ++ String.ofList (s.text '-') ++ ".json"

/-- The name of a file that is written in a second of a zone that is `ahead` minutes ahead of
universal time. -/
def fileNameIn (s : Second) (ahead : Int) : Except CalendarError String :=
  fileName <$> s.earlier ahead

end LogViewer.Export
