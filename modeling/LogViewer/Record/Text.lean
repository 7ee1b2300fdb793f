import LogViewer.Record.Basic
import LogViewer.Json.Printer
import LogViewer.Json.Display
import LogViewer.Text.Case

/-! The text of a record, in which queries look for their words. -/
namespace LogViewer.Record

/-- The text of a record that queries search, in small letters: its document on one line or, if it
contains itself, its document as people are shown it. -/
def searchable (r : Record) : List Char :=
  Text.lower (r.toJson.compact?.getD r.toJson.shown)

end LogViewer.Record
