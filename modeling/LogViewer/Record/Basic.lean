import LogViewer.Json.Basic

/-! Records: one log entry each, with the attributes that its line names and, for an entry that was
found inside a document, the entries of its object. -/
namespace LogViewer

/-- How a line is written. -/
inductive LineFormat where
  /-- It begins with a line number, a colon and a bar, and parts its fields by bars. -/
  | anchored
  /-- It parts its fields by spaced bars and names its time at the end. -/
  | spaced
  /-- It follows no grammar. -/
  | unstructured
deriving DecidableEq, Repr

def LineFormat.name : LineFormat → String
  | anchored => "FORMAT_A"
  | spaced => "FORMAT_B"
  | unstructured => "UNSTRUCTURED"

/-- The named parts of a line, and the place of an object inside its document. -/
inductive Attribute where
  | lineNumber
  | deviceId
  | sessionId
  | requestId
  | traceId
  | spanId
  | service
  | url
  | cartId
  | source
  | podName
  | level
  | type
  | tag
  | data
  | path
deriving DecidableEq, Repr

namespace Attribute

/-- All attributes, in the order in which a record lists them. -/
def all : List Attribute :=
  [lineNumber, deviceId, sessionId, requestId, traceId, spanId, service, url, cartId, source,
    podName, level, type, tag, data, path]

def name : Attribute → String
  | lineNumber => "line_number"
  | deviceId => "device_id"
  | sessionId => "session_id"
  | requestId => "request_id"
  | traceId => "trace_id"
  | spanId => "span_id"
  | service => "service"
  | url => "url"
  | cartId => "cart_id"
  | source => "source"
  | podName => "pod_name"
  | level => "level"
  | type => "type"
  | tag => "tag"
  | data => "data"
  | path => "path"

/-- The attribute with a name. -/
def named? (name : String) : Option Attribute := all.find? (·.name == name)

end Attribute

/-- One log entry. -/
structure Record where
  timestamp : String
  format : LineFormat
  /-- The instant of the timestamp, in milliseconds since the start of 1970. -/
  instant : Int
  attributes : Attribute → Option String := fun _ => none
  /-- The line that the record was read from. -/
  rawMessage : Option String := none
  /-- The entries of the object that the record stands for. -/
  fields : List (String × Json) := []
  /-- The place of the record's hit among all hits. -/
  hitIndex : Option Int := none
  hitId : Option String := none
  sourcePodName : Option Json := none
  sourceTimestamp : Option Json := none
  /-- The object that held the line. -/
  fullSource : Option Json := none

namespace Record

/-- The value of a name: the attribute of that name if it is set, else the object's entry. -/
def get (r : Record) (name : String) : Json :=
  match Attribute.named? name >>= r.attributes with
  | some value => .string value
  | none => (r.fields.lookup name).getD .null

/-- The entries of a record before those of its object: what is set, each under its own name. -/
def ownEntries (r : Record) : List (String × Json) :=
  (r.hitIndex.map fun n => ("index", Json.int n)).toList ++
    (r.hitId.map fun s => ("id", Json.string s)).toList ++
    [("timestamp", .string r.timestamp), ("format", .string r.format.name)] ++
    (Attribute.all.filterMap fun a => (r.attributes a).map fun s => (a.name, .string s)) ++
    (r.rawMessage.map fun s => ("raw_message", Json.string s)).toList ++
    (r.sourcePodName.map fun v => ("source_pod_name", v)).toList ++
    (r.sourceTimestamp.map fun v => ("source_timestamp", v)).toList

/-- The entries of a record: its own ones, then those of its object under names that are free, then
the object that held the line, under a name that it takes in any case. -/
def entries (r : Record) : List (String × Json) :=
  let merged := r.fields.foldl (fun entries (key, v) => Json.putNew entries key v) r.ownEntries
  match r.fullSource with
  | some v => Json.put merged "full_source" v
  | none => merged

/-- The record as a document. -/
def toJson (r : Record) : Json := .object r.entries

end Record

end LogViewer
