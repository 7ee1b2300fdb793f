import LogViewer.Query.Token
import LogViewer.Text.Substring

/-! What a query says of a text. Words and groups are combined strictly from the left, with the
operator between them or, without one, with `AND`; neither operator binds tighter than the other. -/
namespace LogViewer.Query

open Text

inductive Operator where
  | and
  | or
deriving DecidableEq, Repr

/-- What a word of a query is. -/
inductive Symbol where
  | openGroup
  | closeGroup
  | operator (op : Operator)
  | term (word : List Char)
deriving DecidableEq, Repr

/-- What a word is; the operators may be written in letters of either case. -/
def Symbol.ofToken (word : List Char) : Symbol :=
  if word = ['('] then openGroup
  else if word = [')'] then closeGroup
  else if sameLetters word "AND".toList then operator .and
  else if sameLetters word "OR".toList then operator .or
  else term word

/-- The value so far, if there is one, combined with a further one. -/
def combine (result : Option Bool) (pending : Option Operator) (value : Bool) : Bool :=
  match result, pending with
  | none, _ => value
  | some result, some .or => result || value
  | some result, _ => result && value

/-- How many groups are open after a symbol. -/
def Symbol.depthAfter (depth : Nat) : Symbol → Nat
  | openGroup => depth + 1
  | closeGroup => depth - 1
  | _ => depth

/-- The symbols up to the one that closes the last of `depth` groups, that one included, and the
symbols after it. Without such a symbol all of them belong to the group. -/
def groupSpan (depth : Nat) : List Symbol → List Symbol × List Symbol
  | [] => ([], [])
  | s :: rest =>
    let depth := s.depthAfter depth
    if depth = 0 then ([s], rest)
    else
      let (span, after) := groupSpan depth rest
      (s :: span, after)

/-- The symbols of a group without the one that closes it, where that one is the last. -/
def interior (span : List Symbol) : List Symbol :=
  if span.getLast? = some .closeGroup then span.dropLast else span

theorem length_groupSpan (depth : Nat) (symbols : List Symbol) :
    (groupSpan depth symbols).1.length + (groupSpan depth symbols).2.length = symbols.length := by
  induction symbols generalizing depth with
  | nil => simp [groupSpan]
  | cons s rest ih =>
    rw [groupSpan]
    split
    · simp
      omega
    · have := ih (s.depthAfter depth)
      simp only [List.length_cons]
      omega

theorem length_interior_le (span : List Symbol) : (interior span).length ≤ span.length := by
  unfold interior
  split
  · simp
  · exact Nat.le_refl _

/-- The value of some symbols, when a word has the value that `holds` gives it. What came before
them has the value `result`, and `pending` is the operator after it. -/
def evaluateFrom (holds : List Char → Bool) (result : Option Bool) (pending : Option Operator) :
    List Symbol → Bool
  | [] => result.getD false
  | .openGroup :: rest =>
    let value := evaluateFrom holds none none (interior (groupSpan 1 rest).1)
    evaluateFrom holds (some (combine result pending value)) none (groupSpan 1 rest).2
  | .closeGroup :: rest => evaluateFrom holds result pending rest
  | .operator op :: rest => evaluateFrom holds result (some op) rest
  | .term word :: rest =>
    evaluateFrom holds (some (combine result pending (holds word))) none rest
termination_by symbols => symbols.length
decreasing_by
  · have := length_groupSpan 1 rest
    have := length_interior_le (groupSpan 1 rest).1
    simp only [List.length_cons]
    omega
  · have := length_groupSpan 1 rest
    simp only [List.length_cons]
    omega
  · simp
  · simp
  · simp

/-- Whether a word occurs in a text in small letters. -/
def holdsIn (text word : List Char) : Bool := occursIn (lower word) text

/-- What the words of a query say of a text in small letters. -/
def evaluateTokens (words : List (List Char)) (text : List Char) : Bool :=
  evaluateFrom (holdsIn text) none none (words.map Symbol.ofToken)

/-- Whether a query says nothing. -/
def isBlank (query : String) : Bool := blankOnly query.toList

/-- Whether a text satisfies a query; a query that says nothing is satisfied by no text. -/
def evaluate (query : String) (text : List Char) : Except OverlongNumber Bool :=
  if isBlank query then .ok false
  else (evaluateTokens · (lower text)) <$> tokens query.toList

end LogViewer.Query
