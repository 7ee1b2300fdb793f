import LogViewer.Text.Blank
import LogViewer.Text.Case
import LogViewer.Text.Digit
import LogViewer.Numeric.Decimal
import LogViewer.Numeric.DigitLimit

/-! The words of a query. Phrases in quotation marks are lifted out first, so that blanks and
parentheses inside them part nothing, and leave placeholders behind; a word that is a placeholder
as a whole comes back as its phrase, in small letters. A query may hold placeholders of its own
making, and the number in such a one may be too long to be read: then the query has no words. -/
namespace LogViewer.Query

open Text

/-- A piece of a query: a character outside the phrases, or a phrase. -/
inductive Segment where
  | plain (c : Char)
  | phrase (text : List Char)
deriving DecidableEq, Repr

/-- The phrase whose opening mark is gone, and the text after its closing mark. A phrase is not
empty. -/
def phrase? (s : List Char) : Option (List Char × List Char) :=
  match s.takeWhile (· != '"'), s.dropWhile (· != '"') with
  | [], _ | _, [] => none
  | phrase, _ :: rest => some (phrase, rest)

theorem length_of_phrase?_eq_some {s phrase rest : List Char}
    (h : phrase? s = some (phrase, rest)) : rest.length < s.length := by
  have suffix := List.dropWhile_suffix (l := s) (· != '"')
  unfold phrase? at h
  split at h
  · cases h
  · cases h
  · rename_i eq _
    cases h
    have := (eq ▸ suffix).length_le
    simp only [List.length_cons] at this
    omega

/-- The pieces of a query. -/
def segments : List Char → List Segment
  | [] => []
  | c :: s =>
    if c = '"' then
      match _ : phrase? s with
      | some (phrase, rest) => .phrase phrase :: segments rest
      | none => .plain c :: segments s
    else .plain c :: segments s
termination_by s => s.length
decreasing_by
  · have := length_of_phrase?_eq_some ‹_›
    simp only [List.length_cons]
    omega
  · simp
  · simp

/-- The phrases among some pieces. -/
def phrases (pieces : List Segment) : List (List Char) :=
  pieces.filterMap fun
    | .phrase text => some text
    | .plain _ => none

/-- What stands for the phrase with a number. -/
def placeholder (n : Nat) : List Char := "__PHRASE_".toList ++ digitsOf n ++ "__".toList

/-- The text of some pieces with placeholders for the phrases, numbered from `n` on. -/
def withPlaceholders (n : Nat) : List Segment → List Char
  | [] => []
  | .plain c :: pieces => c :: withPlaceholders n pieces
  | .phrase _ :: pieces => placeholder n ++ withPlaceholders (n + 1) pieces

/-- The word that is complete, given backwards, if it is more than blanks. -/
def flush (word : List Char) : List (List Char) :=
  let word := trim word.reverse
  if word.isEmpty then [] else [word]

/-- Cuts a text into words at spaces and tabs and around parentheses. The word that has begun stands
backwards in `word`. -/
def cut (word : List Char) : List Char → List (List Char)
  | [] => flush word
  | c :: s =>
    if c = '(' ∨ c = ')' then flush word ++ [c] :: cut [] s
    else if c = ' ' ∨ c = '\t' then flush word ++ cut [] s
    else cut (c :: word) s

/-- The text after a front, if it is there. -/
def after? (front s : List Char) : Option (List Char) :=
  if front.isPrefixOf s then some (s.drop front.length) else none

/-- The digits of the number in a word that is a placeholder. -/
def placeholderDigits? (word : List Char) : Option (List Char) := do
  let rest ← after? "__PHRASE_".toList word
  let digits := rest.takeWhile isDigit
  guard (digits ≠ [] ∧ rest.dropWhile isDigit = "__".toList)
  return digits

/-- The phrase that a word stands for, in small letters, or the word itself. -/
def restore (phrases : List (List Char)) (word : List Char) :
    Except OverlongNumber (List Char) :=
  match placeholderDigits? word with
  | none => .ok word
  | some digits => do
    let number ← readWithinLimit numberOf digits
    return (phrases[number]?.map lower).getD word

/-- The words of a query. -/
def tokens (query : List Char) : Except OverlongNumber (List (List Char)) :=
  let pieces := segments query
  (cut [] (withPlaceholders 0 pieces)).mapM (restore (phrases pieces))

end LogViewer.Query
