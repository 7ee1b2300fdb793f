import Mathlib.Data.List.Infix
import LogViewer.Query.Evaluate

/-! Queries as trees: words, phrases and groups, joined from the left. A tree says what a text in
small letters must hold, and is written down as a row of lexemes with spaces and tabs between them.
Neither the meaning nor the written forms mention how a query is read. -/
namespace LogViewer.Query

open Text

/-- The letters of an operator; a query may have them in either case. -/
def Operator.letters : Operator → List Char
  | .and => "AND".toList
  | .or => "OR".toList

/-- Whether a word reads as an operator. -/
def IsOperator (s : List Char) : Prop := ∃ op : Operator, sameLetters s op.letters = true

/-- Whether a word has the shape of what stands for a lifted phrase. Its digits may be of any
script. -/
def IsPlaceholder (s : List Char) : Prop :=
  ∃ digits, digits ≠ [] ∧ (∀ c ∈ digits, isDigit c = true) ∧
    s = "__PHRASE_".toList ++ digits ++ "__".toList

/-- A character that parts nothing: no blank, parenthesis or quotation mark. -/
structure IsPlain (c : Char) : Prop where
  not_blank : Text.isBlank c = false
  not_parenthesis : c ≠ '(' ∧ c ≠ ')'
  not_quote : c ≠ '"'

/-- A bare word of a query. -/
structure Word where
  text : List Char
  ne_nil : text ≠ []
  plain : ∀ c ∈ text, IsPlain c
  not_operator : ¬IsOperator text

/-- A phrase of a query, without its quotation marks. -/
structure Phrase where
  text : List Char
  ne_nil : text ≠ []
  unquoted : ∀ c ∈ text, c ≠ '"'

/-- What stands between two operands: nothing, or an operator in some spelling. -/
inductive Connective where
  | adjacent
  | operator (op : Operator) (spelling : List Char)
      (spells : sameLetters spelling op.letters = true)

/-- Operands side by side are joined as by `AND`. -/
def Connective.apply : Connective → Bool → Bool → Bool
  | .operator .or _ _, left, right => left || right
  | _, left, right => left && right

mutual

/-- A word, a phrase or a group of a query. -/
inductive Operand where
  | word (w : Word)
  | phrase (p : Phrase)
  | group (content : Expression)

/-- A query: an operand, or a query with a further operand behind it. -/
inductive Expression where
  | operand (x : Operand)
  | join (front : Expression) (link : Connective) (last : Operand)

end

mutual

/-- What an operand says of a text in small letters. -/
def Operand.denote (text : List Char) : Operand → Bool
  | .word w => decide (lower w.text <:+: text)
  | .phrase p => decide (lower p.text <:+: text)
  | .group content => content.denote text

/-- What a query says of a text in small letters. No operator binds tighter than another one. -/
def Expression.denote (text : List Char) : Expression → Bool
  | .operand x => x.denote text
  | .join front link last => link.apply (front.denote text) (last.denote text)

end

/-- A part of a written query that is not a blank. -/
inductive Lexeme where
  | openGroup
  | closeGroup
  | operator (op : Operator) (spelling : List Char)
      (spells : sameLetters spelling op.letters = true)
  | word (w : Word)
  | phrase (p : Phrase)

namespace Lexeme

/-- A lexeme in writing. -/
def text : Lexeme → List Char
  | openGroup => ['(']
  | closeGroup => [')']
  | operator _ spelling _ => spelling
  | word w => w.text
  | phrase p => '"' :: p.text ++ ['"']

def IsParenthesis : Lexeme → Prop
  | openGroup | closeGroup => True
  | _ => False

/-- Whether a lexeme can only be taken for what it is: a word is none that stands for a phrase, and
a phrase is none that would be a parenthesis or an operator without its quotation marks. -/
def IsLiteral : Lexeme → Prop
  | word w => ¬IsPlaceholder w.text
  | phrase p => p.text ≠ ['('] ∧ p.text ≠ [')'] ∧ ¬IsOperator p.text
  | _ => True

end Lexeme

def Connective.lexemes : Connective → List Lexeme
  | .adjacent => []
  | .operator op spelling spells => [.operator op spelling spells]

mutual

def Operand.lexemes : Operand → List Lexeme
  | .word w => [.word w]
  | .phrase p => [.phrase p]
  | .group content => .openGroup :: (content.lexemes ++ [.closeGroup])

/-- The lexemes of a query, in order. -/
def Expression.lexemes : Expression → List Lexeme
  | .operand x => x.lexemes
  | .join front link last => front.lexemes ++ (link.lexemes ++ last.lexemes)

end

/-- Whether all words and phrases of a query can only be taken for what they are. -/
def Expression.IsLiteral (e : Expression) : Prop := ∀ l ∈ e.lexemes, l.IsLiteral

/-- The texts of the phrases among some lexemes. -/
def phraseTexts (lexemes : List Lexeme) : List (List Char) :=
  lexemes.filterMap fun
    | .phrase p => some p.text
    | _ => none

/-- A lexeme with the spaces and tabs in front of it. -/
structure Placed where
  gap : List Char
  lexeme : Lexeme
  gap_blank : ∀ c ∈ gap, c = ' ' ∨ c = '\t'

namespace Placed

def text (p : Placed) : List Char := p.gap ++ p.lexeme.text

/-- Whether a lexeme may follow another one: two that are not parentheses must not touch. -/
def Precedes (p q : Placed) : Prop :=
  p.lexeme.IsParenthesis ∨ q.lexeme.IsParenthesis ∨ q.gap ≠ []

end Placed

/-- A way to write a query down. -/
structure Rendering (e : Expression) where
  placed : List Placed
  placed_eq : placed.map (·.lexeme) = e.lexemes
  parted : placed.IsChain Placed.Precedes
  /-- The spaces and tabs behind the last lexeme. -/
  rest : List Char
  rest_blank : ∀ c ∈ rest, c = ' ' ∨ c = '\t'

/-- The text of a query in writing. -/
def Rendering.text {e : Expression} (r : Rendering e) : List Char :=
  r.placed.flatMap Placed.text ++ r.rest

/-- Every query can be written down, for example with a space in front of each lexeme. -/
def Rendering.spaced (e : Expression) : Rendering e where
  placed := e.lexemes.map fun l => ⟨[' '], l, by simp⟩
  placed_eq := by
    rw [List.map_map]
    exact List.map_id e.lexemes
  parted := by
    refine (List.pairwise_map.mpr (List.pairwise_of_forall fun l k => ?_)).isChain
    exact Or.inr (Or.inr (List.cons_ne_nil ' ' []))
  rest := []
  rest_blank := by simp

end LogViewer.Query
