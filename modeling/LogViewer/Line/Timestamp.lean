import LogViewer.Calendar.Timestamp
import LogViewer.Text.Substring

/-! The timestamp that a line carries. A line that begins with a number has it after the first bar,
with a zone that is left out; any other line has it after the word `at`, with a space between date
and time. -/
namespace LogViewer.Line

open Text Timestamp

/-- The time at the front of a text, to a fraction of at least one digit, and the text after it. The
character `mark` stands between date and time. -/
def stamp? (mark : Char) (s : List Char) : Option (List Char × List Char) :=
  match afterShape? ("dddd-dd-dd".toList ++ mark :: "dd:dd:dd.d".toList) s with
  | some t =>
    let rest := t.dropWhile isDigit
    some (s.take (s.length - rest.length), rest)
  | none => none

/-- The text after the line number, the colon and the bar of an anchored line. -/
def afterNumber? (s : List Char) : Option (List Char) :=
  match s.dropWhile isDigit with
  | ':' :: '|' :: t => if t.length + 2 = s.length then none else some t
  | _ => none

/-- The time of an anchored line, without its zone. -/
def anchoredTime? (s : List Char) : Option (List Char) := do
  let s ← afterNumber? s
  let (time, zone) ← stamp? 'T' s
  match zone with
  | sign :: zone =>
    guard (sign = '+' ∨ sign = '-')
    guard (afterShape? "dd:dd|".toList zone).isSome
    return time
  | [] => none

/-- The first time of a text that follows the word `at`. -/
def markedTime? : List Char → Option (List Char)
  | [] => none
  | c :: s =>
    match afterShape? "at ".toList (c :: s) >>= stamp? ' ' with
    | some (time, _) => some time
    | none => markedTime? s

/-- A time with the letter `T` in place of its first space. -/
def withLetter (time : List Char) : List Char :=
  match time.span (· != ' ') with
  | (date, ' ' :: clock) => date ++ 'T' :: clock
  | _ => time

/-- The timestamp that a line carries. -/
def timestamp? (line : String) : Option String :=
  match anchoredTime? line.toList with
  | some time => some (String.ofList time)
  | none => (markedTime? line.toList).map (String.ofList ∘ withLetter)

end LogViewer.Line
