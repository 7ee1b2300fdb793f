import LogViewer.Corpus.Basic
import LogViewer.Document.Shape
import LogViewer.Json.Display
import LogViewer.Line.Record

/-! Entries of a document, and what becomes of them. An entry is a hit of a search export, which
holds a line in its source, or an object anywhere in a document that has a timestamp. -/
namespace LogViewer

/-- What becomes of an entry. -/
inductive Outcome where
  | record (r : Record)
  | noSource
  | noTimestamp

namespace Outcome

def record? : Outcome → Option Record
  | record r => some r
  | _ => none

def isNoSource : Outcome → Bool
  | noSource => true
  | _ => false

def isNoTimestamp : Outcome → Bool
  | noTimestamp => true
  | _ => false

end Outcome

variable {ν : Type} [Payload ν]

/-- The value of a key as a tree, if it is there and not null. -/
def treeOf? (v : ν) (key : String) : Option Json :=
  match (Payload.member? v key).map Payload.tree with
  | none | some .null => none
  | some tree => some tree

/-- The source of a hit and the line in it. -/
def lineOf? (hit : ν) : Option (ν × String) := do
  let source ← Payload.member? hit "_source"
  match Payload.shape (← Payload.member? source "message") with
  | .scalar (.string line) => if line = "" then none else some (source, line)
  | _ => none

/-- The record of a line, if its timestamp names an instant. A line that follows no grammar
becomes a record of its own format. -/
def recordOfLine? (line timestamp : String) : Except CalendarError (Option Record) := do
  match ← Line.record? line (some timestamp) with
  | some r => return some r
  | none =>
    let some instant ← Timestamp.instant? timestamp | return none
    return some { timestamp, format := .unstructured, instant, rawMessage := some line }

/-- What becomes of a hit. Its line is dated by the timestamp that it carries, else by the one
beside it in the source. -/
def outcomeOfHit (hit : ν) (index : Nat) : Except CalendarError Outcome := do
  let some (source, line) := lineOf? hit | return .noSource
  let stamped := (Payload.member? source "timestamp").bind (Payload.shape · |>.timestamp?)
  let some timestamp := (Line.timestamp? line).or (stamped.filter (· != ""))
    | return .noTimestamp
  let some r ← recordOfLine? line timestamp | return .noTimestamp
  return .record { r with
    hitIndex := some index
    hitId := (treeOf? hit "_id").map (String.ofList ·.shown)
    sourcePodName := treeOf? source "pod_name"
    sourceTimestamp := treeOf? source "timestamp"
    fullSource := some (Payload.tree source) }

/-- The names under which an object may have its timestamp, the first choice first. -/
def timestampNames : List String := ["timestamp", "time", "date"]

/-- The timestamp of an object, as it stands there. -/
def timestampOf? (fields : List (String × ν)) : Option ν :=
  timestampNames.findSome? fun name =>
    (fields.lookup name).filter (Payload.shape · |>.holds)

/-- What becomes of an object with a path; none if it has no timestamp and so is no entry. -/
def outcomeOfObject? (path : String) (fields : List (String × ν)) :
    Except CalendarError (Option Outcome) := do
  let some value := timestampOf? fields | return none
  let some timestamp := (Payload.shape value).timestamp? | return some .noTimestamp
  let some instant ← Timestamp.instant? timestamp | return some .noTimestamp
  return some (.record {
    timestamp, format := .unstructured, instant
    attributes := fun
      | .path => some path
      | _ => none
    fields := fields.map fun (key, v) => (key, Payload.tree v) })

end LogViewer
