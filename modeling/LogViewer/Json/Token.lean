import LogViewer.Json.Basic
import LogViewer.Numeric.Decimal
import LogViewer.Numeric.DigitLimit
import LogViewer.Text.Surrogate

/-! The words of document text, each with its offset. Text that is no word becomes a word of its
own kind, so that the reader can refuse it where it stands: what is wrong with it depends on what
could have stood there. -/
namespace LogViewer.Json

/-- Why text is not a document. -/
inductive Fault where
  | expectedValue
  | expectedName
  | expectedColon
  | expectedComma
  | unterminatedText
  | controlCharacter
  | unknownEscape
  | badUnicodeEscape
  | trailingText
  | byteOrderMark
deriving DecidableEq, Repr

inductive Token where
  | openObject
  | closeObject
  | openArray
  | closeArray
  | colon
  | comma
  | text (s : String)
  /-- Null, a truth value or a number. -/
  | scalar (value : Json)
  /-- A whole number with more digits than are read. -/
  | overlong (number : OverlongNumber)
  /-- A text literal that cannot be read, and the offset of its fault. -/
  | brokenText (fault : Fault) (offset : Nat)
  /-- A character that begins no word. -/
  | stray

/-- A word and the offset of its first character. -/
structure Placed where
  token : Token
  offset : Nat

def isAsciiDigit (c : Char) : Bool := '0' ≤ c && c ≤ '9'

def hexValue? (c : Char) : Option Nat :=
  if '0' ≤ c && c ≤ '9' then some (c.toNat - 48)
  else if 'a' ≤ c && c ≤ 'f' then some (c.toNat - 87)
  else if 'A' ≤ c && c ≤ 'F' then some (c.toNat - 55)
  else none

/-- The number that four hexadecimal digits denote. -/
def fourHex? (a b c d : Char) : Option Nat := do
  return (((← hexValue? a) * 16 + (← hexValue? b)) * 16 + (← hexValue? c)) * 16 + (← hexValue? d)

/-- The characters that a backslash and a letter stand for. -/
def escapes : List (Char × Char) :=
  [('"', '"'), ('\\', '\\'), ('/', '/'), ('b', '\x08'), ('f', '\x0c'), ('n', '\n'), ('r', '\r'),
    ('t', '\t')]

/-- What the first characters of the inside of a text literal are. A fault in them is given with
its offset from the first of them. -/
inductive Piece where
  | close
  /-- A character, written with `extra` characters after the first one. -/
  | char (c : Char) (extra : Nat)
  | unfinished
  | broken (fault : Fault) (offset : Nat)

variable [Text.StandIns]

/-- Reads the escape of a code point, of which a backslash and the letter `u` are gone. Its four
digits must be followed by something. Two escapes of surrogates that belong together name one
character; any other surrogate is given by the character that stands for it. -/
def unicodeEscape : List Char → Piece
  | a :: b :: c :: d :: e :: s =>
    match fourHex? a b c d with
    | none => .broken .badUnicodeEscape 1
    | some unit =>
      if 0xD800 ≤ unit && unit ≤ 0xDBFF then
        match e :: s with
        | '\\' :: 'u' :: a' :: b' :: c' :: d' :: _ :: _ =>
          match fourHex? a' b' c' d' with
          | none => .broken .badUnicodeEscape 7
          | some low =>
            if 0xDC00 ≤ low && low ≤ 0xDFFF then
              .char (Char.ofNat (0x10000 + (unit - 0xD800) * 0x400 + (low - 0xDC00))) 11
            else .char (Text.StandIns.char unit) 5
        | _ => .char (Text.StandIns.char unit) 5
      else if 0xDC00 ≤ unit && unit ≤ 0xDFFF then .char (Text.StandIns.char unit) 5
      else .char (Char.ofNat unit) 5
  | _ => .broken .badUnicodeEscape 1

/-- Reads the first piece of the inside of a text literal. -/
def piece (c : Char) (s : List Char) : Piece :=
  if c == '"' then .close
  else if c == '\\' then
    match s with
    | [] => .unfinished
    | 'u' :: t => unicodeEscape t
    | e :: _ => match escapes.lookup e with
      | some d => .char d 1
      | none => .broken .unknownEscape 0
  else if c.toNat < 0x20 then .broken .controlCharacter 0
  else .char c 0

/-- Reads the inside of a text literal that is open since `start`. The text so far stands backwards
in `before`. The result is a word and the count of characters taken, the closing mark included. -/
def scanText (start taken : Nat) (before : List Char) : List Char → Token × Nat
  | [] => (.brokenText .unterminatedText start, taken)
  | c :: s => match piece c s with
    | .close => (.text (String.ofList before.reverse), taken + 1)
    | .char d extra => scanText start (taken + 1 + extra) (d :: before) (s.drop extra)
    | .unfinished => (.brokenText .unterminatedText start, taken)
    | .broken fault offset => (.brokenText fault (start + 1 + taken + offset), taken)
termination_by s => s.length
decreasing_by simp only [List.length_drop, List.length_cons]; omega

/-- The parts of a number: its sign, its whole part, and its fraction and exponent where it has
them. -/
structure Numeral where
  negative : Bool
  whole : List Char
  fraction : List Char
  exponent : List Char
  negativeExponent : Bool
  /-- The count of characters of the numeral. -/
  size : Nat

/-- Reads the fraction of a number: a point and at least one digit. -/
def scanFraction : List Char → List Char
  | '.' :: s => s.takeWhile isAsciiDigit
  | _ => []

/-- Reads the exponent of a number: its letter, a sign on demand and at least one digit. The result
is the sign, the digits, and the count of characters before them. -/
def scanExponent : List Char → Bool × List Char × Nat
  | c :: s =>
    if c == 'e' || c == 'E' then
      match s with
      | '-' :: t => (true, t.takeWhile isAsciiDigit, 2)
      | '+' :: t => (false, t.takeWhile isAsciiDigit, 2)
      | t => (false, t.takeWhile isAsciiDigit, 1)
    else (false, [], 0)
  | [] => (false, [], 0)

/-- Reads the longest number at the front of a text. -/
def scanNumeral? (s : List Char) : Option Numeral :=
  let (negative, t) := match s with
    | '-' :: t => (true, t)
    | t => (false, t)
  let whole := match t with
    | '0' :: _ => ['0']
    | t => t.takeWhile isAsciiDigit
  if whole.isEmpty then none
  else
    let t := t.drop whole.length
    let fraction := scanFraction t
    let fractionSize := if fraction.isEmpty then 0 else fraction.length + 1
    let (negativeExponent, exponent, lead) := scanExponent (t.drop fractionSize)
    let exponentSize := if exponent.isEmpty then 0 else exponent.length + lead
    some {
      negative, whole, fraction, exponent, negativeExponent
      size := (if negative then 1 else 0) + whole.length + fractionSize + exponentSize }

/-- The number that a row of the ten ASCII digits denotes. -/
def asciiNumber (digits : List Char) : Nat :=
  digits.foldl (fun n c => 10 * n + (c.toNat - 48)) 0

/-- The value of a numeral: whole if it has neither fraction nor exponent. -/
def Numeral.token (n : Numeral) : Token :=
  if n.fraction.isEmpty && n.exponent.isEmpty then
    match readWithinLimit asciiNumber n.whole with
    | .error number => .overlong number
    | .ok magnitude => .scalar (.int (if n.negative then -(magnitude : Int) else magnitude))
  else
    let exponent : Int := asciiNumber n.exponent
    let scale := (if n.negativeExponent then -exponent else exponent) - n.fraction.length
    .scalar (.double (.ofDecimal n.negative (asciiNumber (n.whole ++ n.fraction)) scale))

/-- The words that are fixed rows of letters. -/
def namedValues : List (List Char × Json) :=
  [("null".toList, .null), ("true".toList, .bool true), ("false".toList, .bool false),
    ("NaN".toList, .double .nan), ("Infinity".toList, .double (.infinite false)),
    ("-Infinity".toList, .double (.infinite true))]

/-- Reads the word that begins with `c` at `offset`, and counts the characters after the first one
that belong to it. -/
def scanToken (offset : Nat) (c : Char) (s : List Char) : Token × Nat :=
  match c with
  | '{' => (.openObject, 0)
  | '}' => (.closeObject, 0)
  | '[' => (.openArray, 0)
  | ']' => (.closeArray, 0)
  | ':' => (.colon, 0)
  | ',' => (.comma, 0)
  | '"' => scanText offset 0 [] s
  | _ =>
    match namedValues.find? fun (word, _) => word.isPrefixOf (c :: s) with
    | some (word, value) => (.scalar value, word.length - 1)
    | none => match scanNumeral? (c :: s) with
      | some n => (n.token, n.size - 1)
      | none => (.stray, 0)

def isSpace (c : Char) : Bool := c == ' ' || c == '\t' || c == '\n' || c == '\r'

/-- The words of a text whose first character has the given offset. -/
def tokens (offset : Nat) : List Char → List Placed
  | [] => []
  | c :: s =>
    if isSpace c then tokens (offset + 1) s
    else
      let (token, extra) := scanToken offset c s
      ⟨token, offset⟩ :: tokens (offset + 1 + extra) (s.drop extra)
termination_by s => s.length
decreasing_by all_goals simp only [List.length_drop, List.length_cons]; omega

end LogViewer.Json
