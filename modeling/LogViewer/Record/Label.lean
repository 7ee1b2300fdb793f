import LogViewer.Record.Basic
import LogViewer.Json.Display

/-! Labels of records: a few words that say what happened. -/
namespace LogViewer.Record

/-- The names whose values label a record, the first choice first. -/
def labelNames : List String := ["tag", "action", "type", "event"]

/-- The count of characters of a message that fit into a label. -/
def labelLength : Nat := 30

/-- The short label of a record: a value that names what happened, else the start of its message,
else its path. -/
def label (r : Record) : String :=
  match labelNames.findSome? fun name => some (r.get name) |>.filter Json.holds with
  | some value => String.ofList value.shown
  | none =>
    let entry := some (r.get "message") |>.filter Json.holds
    let line := r.rawMessage.filter (· != "") |>.map Json.string
    match entry.or line with
    | some message => String.ofList (message.shown.take labelLength)
    | none => match r.attributes .path with
      | some path => if path = "" then "Log" else path
      | none => "Log"

end LogViewer.Record
