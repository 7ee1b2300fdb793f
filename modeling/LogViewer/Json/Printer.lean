import LogViewer.Json.Basic
import LogViewer.Numeric.Decimal
import LogViewer.Text.Quoted

/-! Printing documents, on one line or with an entry on each line. Characters beyond the first 128
stand for themselves. A value that contains itself has no text. -/
namespace LogViewer.Json

/-- A character inside a text literal. -/
def escapedChar (c : Char) : List Char :=
  if c == '"' then ['\\', '"']
  else if c == '\\' then ['\\', '\\']
  else if c == '\n' then ['\\', 'n']
  else if c == '\r' then ['\\', 'r']
  else if c == '\t' then ['\\', 't']
  else if c == '\x08' then ['\\', 'b']
  else if c == '\x0c' then ['\\', 'f']
  else if c.toNat < 0x20 then '\\' :: 'u' :: Text.hexDigits 4 c.toNat
  else [c]

/-- A text literal. -/
def literal (s : String) : List Char := '"' :: s.toList.flatMap escapedChar ++ ['"']

/-- The text of a value that holds no other. -/
def scalarText : Json → List Char
  | null => "null".toList
  | bool true => "true".toList
  | bool false => "false".toList
  -- A number of more than 4300 digits is printed as well, where the program has no text for it. Only
  -- a document made in memory holds one: such a number is not read.
  | int n => wholeText n
  | double x => x.shortest .document
  | string s => literal s
  | _ => []

mutual

/-- The text of a value on one line. -/
def compact : Json → List Char
  | array [] => ['[', ']']
  | array (v :: items) => '[' :: compact v ++ compactItems items
  | object [] => ['{', '}']
  | object ((key, v) :: entries) =>
    '{' :: literal key ++ ':' :: ' ' :: compact v ++ compactEntries entries
  | v => scalarText v

/-- The further items of an array and its end. -/
def compactItems : List Json → List Char
  | [] => [']']
  | v :: items => ',' :: ' ' :: compact v ++ compactItems items

/-- The further entries of an object and its end. -/
def compactEntries : List (String × Json) → List Char
  | [] => ['}']
  | (key, v) :: entries =>
    ',' :: ' ' :: literal key ++ ':' :: ' ' :: compact v ++ compactEntries entries

end

/-- The start of a line at a depth. -/
def newLine (depth : Nat) : List Char := '\n' :: List.replicate (2 * depth) ' '

mutual

/-- The text of a value at a depth, each item and entry on a line of its own. -/
def indented (depth : Nat) : Json → List Char
  | array [] => ['[', ']']
  | array (v :: items) =>
    '[' :: newLine (depth + 1) ++ indented (depth + 1) v ++ indentedItems depth items
  | object [] => ['{', '}']
  | object ((key, v) :: entries) =>
    '{' :: newLine (depth + 1) ++ literal key ++ ':' :: ' ' :: indented (depth + 1) v ++
      indentedEntries depth entries
  | v => scalarText v

/-- The further items of an array at a depth and its end. -/
def indentedItems (depth : Nat) : List Json → List Char
  | [] => newLine depth ++ [']']
  | v :: items =>
    ',' :: newLine (depth + 1) ++ indented (depth + 1) v ++ indentedItems depth items

/-- The further entries of an object at a depth and its end. -/
def indentedEntries (depth : Nat) : List (String × Json) → List Char
  | [] => newLine depth ++ ['}']
  | (key, v) :: entries =>
    ',' :: newLine (depth + 1) ++ literal key ++ ':' :: ' ' :: indented (depth + 1) v ++
      indentedEntries depth entries

end

/-- The text of a value on one line, if it does not contain itself. -/
def compact? (v : Json) : Option (List Char) := if v.hasLoop then none else some v.compact

/-- The text of a value on several lines, if it does not contain itself. -/
def indented? (v : Json) : Option (List Char) :=
  if v.hasLoop then none else some (v.indented 0)

end LogViewer.Json
