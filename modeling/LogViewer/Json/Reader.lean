import LogViewer.Json.Token

/-! Reading documents. The reader goes through the words once, with the containers that are open on
a stack, and stops at the first word that cannot stand where it stands. -/
namespace LogViewer.Json

/-- Where a fault lies; lines and columns count from one, the offset from nought. -/
structure Place where
  line : Nat
  column : Nat
  offset : Nat
deriving DecidableEq, Repr

/-- Why a text could not be read. -/
inductive ReadError where
  | malformed (fault : Fault) (place : Place)
  /-- A whole number has more digits than are read. -/
  | overlong (number : OverlongNumber)
deriving DecidableEq, Repr

/-- The place of an offset in a text. -/
def placeOf (s : List Char) (offset : Nat) : Place :=
  let before := s.take offset
  { line := before.count '\n' + 1
    column := (before.reverse.takeWhile (· != '\n')).length + 1
    offset }

def Fault.message : Fault → String
  | .expectedValue => "Expecting value"
  | .expectedName => "Expecting property name enclosed in double quotes"
  | .expectedColon => "Expecting ':' delimiter"
  | .expectedComma => "Expecting ',' delimiter"
  | .unterminatedText => "Unterminated string starting at"
  | .controlCharacter => "Invalid control character at"
  | .unknownEscape => "Invalid \\escape"
  | .badUnicodeEscape => "Invalid \\uXXXX escape"
  | .trailingText => "Extra data"
  | .byteOrderMark => "Unexpected UTF-8 BOM (decode using utf-8-sig)"

def ReadError.message : ReadError → String
  | .malformed fault place =>
    fault.message ++ ": line " ++ toString place.line ++ " column " ++ toString place.column ++
      " (char " ++ toString place.offset ++ ")"
  | .overlong number => number.message

/-- A container that is open: an array with its items backwards, an object with its entries, or an
object whose entry `key` waits for its value. -/
inductive Open where
  | array (items : List Json)
  | object (entries : List (String × Json))
  | entry (entries : List (String × Json)) (key : String)

/-- What may stand at a place. -/
inductive Expected where
  | value
  | valueOrClose
  | name
  | nameOrClose
  | colon (key : String)
  | commaOrClose
  /-- Nothing: the document is complete. -/
  | nothing (document : Json)

/-- Where the reader stands once `value` is complete. -/
def complete (value : Json) : List Open → Expected × List Open
  | [] => (.nothing value, [])
  | .array items :: stack => (.commaOrClose, .array (value :: items) :: stack)
  | .entry entries key :: stack => (.commaOrClose, .object (put entries key value) :: stack)
  | .object entries :: stack => (.commaOrClose, .object entries :: stack)

/-- Why a reading stopped: a fault at an offset, or a whole number of too many digits. -/
inductive Stop where
  | fault (fault : Fault) (offset : Nat)
  | overlong (number : OverlongNumber)

/-- Takes a word where a value is expected. -/
def takeValue (stack : List Open) (word : Placed) : Except Stop (Expected × List Open) :=
  match word.token with
  | .openObject => .ok (.nameOrClose, .object [] :: stack)
  | .openArray => .ok (.valueOrClose, .array [] :: stack)
  | .text s => .ok (complete (.string s) stack)
  | .scalar value => .ok (complete value stack)
  | .overlong number => .error (.overlong number)
  | .brokenText fault offset => .error (.fault fault offset)
  | _ => .error (.fault .expectedValue word.offset)

/-- Takes a word where the name of an entry is expected. -/
def takeName (stack : List Open) (word : Placed) : Except Stop (Expected × List Open) :=
  match word.token with
  | .text s => .ok (.colon s, stack)
  | .brokenText fault offset => .error (.fault fault offset)
  | _ => .error (.fault .expectedName word.offset)

/-- Takes one word. -/
def takeWord (expected : Expected) (stack : List Open) (word : Placed) :
    Except Stop (Expected × List Open) :=
  match expected with
  | .value => takeValue stack word
  | .valueOrClose => match word.token, stack with
    | .closeArray, .array items :: rest => .ok (complete (.array items.reverse) rest)
    | _, _ => takeValue stack word
  | .name => takeName stack word
  | .nameOrClose => match word.token, stack with
    | .closeObject, .object entries :: rest => .ok (complete (.object entries) rest)
    | _, _ => takeName stack word
  | .colon key => match word.token, stack with
    | .colon, .object entries :: rest => .ok (.value, .entry entries key :: rest)
    | _, _ => .error (.fault .expectedColon word.offset)
  | .commaOrClose => match word.token, stack with
    | .comma, .array items :: rest => .ok (.value, .array items :: rest)
    | .comma, .object entries :: rest => .ok (.name, .object entries :: rest)
    | .closeArray, .array items :: rest => .ok (complete (.array items.reverse) rest)
    | .closeObject, .object entries :: rest => .ok (complete (.object entries) rest)
    | _, _ => .error (.fault .expectedComma word.offset)
  | .nothing _ => .error (.fault .trailingText word.offset)

/-- What is missing when the text ends. -/
def missing : Expected → Except Fault Json
  | .value | .valueOrClose => .error .expectedValue
  | .name | .nameOrClose => .error .expectedName
  | .colon _ => .error .expectedColon
  | .commaOrClose => .error .expectedComma
  | .nothing document => .ok document

/-- Takes all words; `size` is the offset of the end of the text. -/
def takeAll (size : Nat) (expected : Expected) (stack : List Open) :
    List Placed → Except Stop Json
  | [] => (missing expected).mapError (.fault · size)
  | word :: words => do
    let (expected, stack) ← takeWord expected stack word
    takeAll size expected stack words

variable [Text.StandIns]

/-- Reads the document that a text holds and nothing but it. -/
def readMarked (s : List Char) : Except ReadError Json :=
  (takeAll s.length .value [] (tokens 0 s)).mapError fun
    | .fault fault offset => .malformed fault (placeOf s offset)
    | .overlong number => .overlong number

/-- Reads the document that a text holds and nothing but it. A byte order mark in front of a text
that came as text has a fault of its own. -/
def read (s : List Char) : Except ReadError Json :=
  if s.head? = some '\uFEFF' then .error (.malformed .byteOrderMark (placeOf s 0))
  else readMarked s

end LogViewer.Json
