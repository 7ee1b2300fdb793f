import LogViewer.Line.Timestamp
import LogViewer.Record.Basic

/-! Anchored lines: a line number, a colon, and fields that are each preceded by a bar. The last
field holds a tag and data, may hold bars, and is one line; a line break may follow it. -/
namespace LogViewer.Line

/-- The text before the first bar and the text after it. -/
def field? (s : List Char) : Option (List Char × List Char) :=
  match s.span (· != '|') with
  | (field, _ :: rest) => some (field, rest)
  | (_, []) => none

/-- The text before the first bar, which must not be empty, and the text after it. -/
def filledField? (s : List Char) : Option (List Char × List Char) := do
  let (field, rest) ← field? s
  guard !field.isEmpty
  return (field, rest)

/-- The last field of a line, without the line break that may end it. -/
def lastField? (s : List Char) : Option (List Char) :=
  match s.span (· != '\n') with
  | ([], _) => none
  | (field, []) | (field, [_]) => some field
  | _ => none

/-- A tag and its data, parted by the first colon; a text that has none or begins with it is a tag
as a whole. -/
def splitTag (s : String) : String × Option String :=
  match s.toList.span (· != ':') with
  | ([], _) | (_, []) => (s, none)
  | (tag, _ :: data) => (String.ofList tag, some (String.ofList data))

/-- The fields of an anchored line, each under its attribute, the tag and its data not yet parted.
-/
structure AnchoredFields where
  lineNumber : List Char
  deviceId : List Char
  sessionId : List Char
  service : List Char
  url : List Char
  cartId : List Char
  source : List Char
  level : List Char
  type : List Char
  tagAndData : List Char

/-- Reads the fields of an anchored line; only the address and the cart may be empty. -/
def anchoredFields? (line : List Char) : Option AnchoredFields := do
  let s ← afterNumber? line
  let (_, s) ← filledField? s
  let (deviceId, s) ← filledField? s
  let (sessionId, s) ← filledField? s
  let (service, s) ← filledField? s
  let (url, s) ← field? s
  let (cartId, s) ← field? s
  let (source, s) ← filledField? s
  let (level, s) ← filledField? s
  let (type, s) ← filledField? s
  let tagAndData ← lastField? s
  return {
    lineNumber := line.takeWhile Text.isDigit
    deviceId, sessionId, service, url, cartId, source, level, type, tagAndData }

/-- The attributes of an anchored line. -/
def AnchoredFields.attributes (fields : AnchoredFields) : Attribute → Option String
  | .lineNumber => some (String.ofList fields.lineNumber)
  | .deviceId => some (String.ofList fields.deviceId)
  | .sessionId => some (String.ofList fields.sessionId)
  | .service => some (String.ofList fields.service)
  | .url => some (String.ofList fields.url)
  | .cartId => some (String.ofList fields.cartId)
  | .source => some (String.ofList fields.source)
  | .level => some (String.ofList fields.level)
  | .type => some (String.ofList fields.type)
  | .tag => some (splitTag (String.ofList fields.tagAndData)).1
  | .data => (splitTag (String.ofList fields.tagAndData)).2
  | _ => none

end LogViewer.Line
