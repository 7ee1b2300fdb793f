import LogViewer.Query.Evaluate

/-! The terms of a query, which are marked in the texts that satisfy it. -/
namespace LogViewer.Query

open Text

/-- Adds a term at the end unless it is there already. -/
def addTerm (terms : List (List Char)) (term : List Char) : List (List Char) :=
  if term ∈ terms then terms else terms ++ [term]

/-- The text of some pieces with a space for each phrase and each parenthesis. -/
def outsidePhrases (pieces : List Segment) : List Char :=
  pieces.map fun
    | .plain c => if c = '(' ∨ c = ')' then ' ' else c
    | .phrase _ => ' '

/-- The terms of a query, each once and in small letters: first its phrases, then the words outside
them that are no operators. -/
def terms (query : String) : List (List Char) :=
  let pieces := segments query.toList
  let phraseTerms := ((phrases pieces).map lower).foldl addTerm []
  let words := ((words (outsidePhrases pieces)).map lower).filter fun word =>
    word ≠ "and".toList ∧ word ≠ "or".toList
  if isBlank query then [] else words.foldl addTerm phraseTerms

end LogViewer.Query
